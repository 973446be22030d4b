/- source: src/production/delivery/state.ts
   digest: How long a pending append lives, and that its authorization lives as long. -/

import JbChat.Delivery.InstantOrder
import JbChat.Delivery.SnapshotDigest

set_option autoImplicit false

namespace JbChat.Delivery.PendingExpiry

open Foundation.HashTrace Foundation.Transaction
open ValueObjects Instants InstantOrder Snapshot QuotaRules
open QuotaConservation (sampleHash)
open SnapshotParse SnapshotDigest

/-- `APPLICATION_APPEND_PENDING_MAX_TTL_MILLISECONDS` -/
def pendingMaxTtlMilliseconds : Int := 30000

/-- `APPLICATION_APPEND_ADMISSION_MAX_AGE_MILLISECONDS` -/
def admissionMaxAgeMilliseconds : Int := 15000

structure PendingExpiryInput where
  snapshot : LockedApplicationAppendSnapshot
  admissionStartedAt : String
  authoritativeReceivedAt : String
  activeSigningKeyValidUntil : String

def windowEnd (quota : LockedQuotaCounter) : Int :=
  dateParse quota.windowStartedAt + (quota.windowSeconds : Int) * 1000

/-- The bounds that depend on the rows, after the one on the age of the pending. -/
def authorityBounds (snapshot : LockedApplicationAppendSnapshot) (signingKeyValidUntil : String) :
    List Int :=
  [dateParse snapshot.policyHead.expiresAt, dateParse snapshot.membership.credentialExpiresAt,
    dateParse snapshot.sendGrant.expiresAt, dateParse snapshot.sendGrant.roleCredentialValidUntil,
    dateParse signingKeyValidUntil] ++ snapshot.quotas.map windowEnd

/-- `bounds` -/
def pendingBounds (snapshot : LockedApplicationAppendSnapshot)
    (receivedAt signingKeyValidUntil : String) : List Int :=
  (dateParse receivedAt + pendingMaxTtlMilliseconds) ::
    authorityBounds snapshot signingKeyValidUntil

/-- `bounds.reduce((left, right) => left < right ? left : right)` -/
def leastBound (snapshot : LockedApplicationAppendSnapshot)
    (receivedAt signingKeyValidUntil : String) : Int :=
  (authorityBounds snapshot signingKeyValidUntil).foldl
    (fun left right => if left < right then left else right)
    (dateParse receivedAt + pendingMaxTtlMilliseconds)

/-- `parseRfc3339Millis(new Date(Number(milliseconds)).toISOString(), label)` -/
def parseInstant (milliseconds : Int) (label : String) : Except Failure String :=
  match toISOString milliseconds with
  | none => .error (.invalid (label ++ " must be UTC RFC 3339 with exactly milliseconds."))
  | some text => parseRfc3339Millis text label

def computeApplicationAppendPendingExpiresAt (H : HashFunction) (input : PendingExpiryInput) :
    Except Failure String := do
  let snapshot ← parseLockedApplicationAppendSnapshot H input.snapshot
  let admissionStartedAt ← parseRfc3339Millis input.admissionStartedAt "append admission start"
  let receivedAt ← parseRfc3339Millis input.authoritativeReceivedAt
    "authoritative append receipt time"
  let signingKeyValidUntil ← parseRfc3339Millis input.activeSigningKeyValidUntil
    "active signing key expiry"
  let admissionMilliseconds := dateParse admissionStartedAt
  let receivedMilliseconds := dateParse receivedAt
  if receivedMilliseconds < admissionMilliseconds ∨
      receivedMilliseconds - admissionMilliseconds > admissionMaxAgeMilliseconds then
    .error (.invalid "Append admission start is outside the authoritative time bound.")
  else if ∃ bound ∈ pendingBounds snapshot receivedAt signingKeyValidUntil,
      bound ≤ receivedMilliseconds then
    .error (.invalid "Append pending intent has no positive live interval.")
  else
    parseInstant (leastBound snapshot receivedAt signingKeyValidUntil) "append pending expiry"

section

variable {H : HashFunction} {snapshot : LockedApplicationAppendSnapshot}
  {receivedAt signingKeyValidUntil : String} {bound : Int}

private theorem foldl_least (rest : List Int) (first : Int) :
    (∀ bound ∈ first :: rest, rest.foldl (fun left right => if left < right then left else right)
      first ≤ bound) ∧
      rest.foldl (fun left right => if left < right then left else right) first ∈ first :: rest := by
  induction rest generalizing first with
  | nil => simp
  | cons second rest ih =>
    obtain ⟨least, attained⟩ := ih (if first < second then first else second)
    rw [List.foldl_cons]
    have head := least _ List.mem_cons_self
    refine ⟨?_, ?_⟩
    · intro bound hbound
      rcases List.mem_cons.mp hbound with rfl | hbound
      · split_ifs at head ⊢ <;> omega
      · rcases List.mem_cons.mp hbound with rfl | hbound
        · split_ifs at head ⊢ <;> omega
        · exact least bound (List.mem_cons_of_mem _ hbound)
    · rcases List.mem_cons.mp attained with hfirst | hrest
      · rw [hfirst]
        split_ifs
        · exact List.mem_cons_self
        · exact List.mem_cons_of_mem _ List.mem_cons_self
      · exact List.mem_cons_of_mem _ (List.mem_cons_of_mem _ hrest)

theorem leastBound_le (h : bound ∈ pendingBounds snapshot receivedAt signingKeyValidUntil) :
    leastBound snapshot receivedAt signingKeyValidUntil ≤ bound :=
  (foldl_least _ _).1 bound h

theorem leastBound_mem : leastBound snapshot receivedAt signingKeyValidUntil ∈
    pendingBounds snapshot receivedAt signingKeyValidUntil :=
  (foldl_least _ _).2

/-- What a returned expiry is: the least of the bounds, after the receipt. -/
structure Expires (snapshot : LockedApplicationAppendSnapshot)
    (receivedAt signingKeyValidUntil expiresAt : String) : Prop where
  received : isRfc3339Millis receivedAt = true
  signingKey : isRfc3339Millis signingKeyValidUntil = true
  canonical : isRfc3339Millis expiresAt = true
  live : ∀ bound ∈ pendingBounds snapshot receivedAt signingKeyValidUntil,
    dateParse receivedAt < bound
  least : dateParse expiresAt = leastBound snapshot receivedAt signingKeyValidUntil

theorem parseInstant_eq_ok {milliseconds : Int} {label text : String}
    (h : parseInstant milliseconds label = .ok text) :
    isRfc3339Millis text = true ∧ dateParse text = milliseconds := by
  unfold parseInstant at h
  split at h
  · cases h
  · rename_i written hwritten
    obtain ⟨hcanonical, rfl⟩ := parseRfc3339Millis_eq_ok.mp h
    refine ⟨hcanonical, ?_⟩
    by_cases range : firstInstant ≤ milliseconds ∧ milliseconds ≤ lastInstant
    · obtain ⟨other, hother, -, hdate⟩ := toISOString_spec range.1 range.2
      rw [hwritten] at hother
      rw [Option.some.inj hother, hdate]
    · rw [toISOString, if_neg range] at hwritten
      cases hwritten

theorem compute_eq_ok {input : PendingExpiryInput} {expiresAt : String}
    (parsed : parseLockedApplicationAppendSnapshot H input.snapshot = .ok snapshot)
    (h : computeApplicationAppendPendingExpiresAt H input = .ok expiresAt) :
    Expires snapshot input.authoritativeReceivedAt input.activeSigningKeyValidUntil expiresAt := by
  unfold computeApplicationAppendPendingExpiresAt at h
  obtain ⟨same, hsame, h⟩ := bind_ok.mp h
  cases hsame.symm.trans parsed
  obtain ⟨admission, -, h⟩ := bind_ok.mp h
  obtain ⟨received, hreceived, h⟩ := bind_ok.mp h
  obtain ⟨signingKey, hsigningKey, h⟩ := bind_ok.mp h
  obtain ⟨receivedCanonical, rfl⟩ := parseRfc3339Millis_eq_ok.mp hreceived
  obtain ⟨signingKeyCanonical, rfl⟩ := parseRfc3339Millis_eq_ok.mp hsigningKey
  obtain ⟨-, h⟩ := guard_ok.mp h
  obtain ⟨live, h⟩ := guard_ok.mp h
  obtain ⟨hcanonical, hleast⟩ := parseInstant_eq_ok h
  push Not at live
  exact ⟨receivedCanonical, signingKeyCanonical, hcanonical, live, hleast⟩

variable {expiresAt : String}

theorem Expires.after_receipt (expires : Expires snapshot receivedAt signingKeyValidUntil expiresAt) :
    dateParse receivedAt < dateParse expiresAt := by
  rw [expires.least]
  exact expires.live _ leastBound_mem

theorem Expires.le_bound (expires : Expires snapshot receivedAt signingKeyValidUntil expiresAt)
    (h : bound ∈ pendingBounds snapshot receivedAt signingKeyValidUntil) :
    dateParse expiresAt ≤ bound := by
  rw [expires.least]
  exact leastBound_le h

end

section

private theorem ediv_mul_eq_iff {duration start now : Int} (positive : 0 < duration) :
    now / duration * duration = start ↔
      duration ∣ start ∧ start ≤ now ∧ now < start + duration := by
  constructor
  · rintro rfl
    exact ⟨Dvd.intro_left _ rfl, (Int.ediv_eq_iff_of_pos positive).mp rfl⟩
  · rintro ⟨⟨count, rfl⟩, bounds⟩
    rw [Int.mul_comm] at bounds ⊢
    rw [(Int.ediv_eq_iff_of_pos positive).mpr bounds, Int.mul_comm]

theorem tdiv_mul_eq_iff {duration start now : Int} (positive : 0 < duration) :
    now.tdiv duration * duration = start ↔
      duration ∣ start ∧ ((0 ≤ now ∧ start ≤ now ∧ now < start + duration) ∨
        (now < 0 ∧ now ≤ start ∧ start - duration < now)) := by
  rcases Int.lt_or_le now 0 with negative | nonneg
  · have mirrored : now.tdiv duration * duration = -((-now) / duration * duration) := by
      rw [← Int.tdiv_eq_ediv_of_nonneg (by omega), Int.neg_tdiv]
      ring
    rw [mirrored, neg_eq_iff_eq_neg, ediv_mul_eq_iff positive, Int.dvd_neg]
    refine and_congr_right fun _ => ?_
    omega
  · rw [Int.tdiv_eq_ediv_of_nonneg nonneg, ediv_mul_eq_iff positive]
    refine and_congr_right fun _ => ?_
    omega

theorem isWithinQuotaWindow_iff {windowStartedAt now : String} {windowSeconds : Nat}
    (positive : 1 ≤ windowSeconds) :
    isWithinQuotaWindow windowStartedAt windowSeconds now = true ↔
      (windowSeconds : Int) * 1000 ∣ dateParse windowStartedAt ∧
        dateParse now < dateParse windowStartedAt + windowSeconds * 1000 ∧
        ((0 ≤ dateParse now ∧ dateParse windowStartedAt ≤ dateParse now) ∨
          (dateParse now < 0 ∧ dateParse now ≤ dateParse windowStartedAt ∧
            dateParse windowStartedAt - windowSeconds * 1000 < dateParse now)) := by
  have duration : (0 : Int) < (windowSeconds : Int) * 1000 := by omega
  unfold isWithinQuotaWindow
  simp only [Bool.and_eq_true, decide_eq_true_eq]
  rw [eq_comm, tdiv_mul_eq_iff duration, and_assoc]
  refine and_congr_right fun _ => ?_
  omega

variable {windowStartedAt now later : String} {windowSeconds : Nat}

theorem isWithinQuotaWindow_later (positive : 1 ≤ windowSeconds)
    (within : isWithinQuotaWindow windowStartedAt windowSeconds now = true)
    (order : dateParse now ≤ dateParse later)
    (before : dateParse later < dateParse windowStartedAt + windowSeconds * 1000)
    (start : dateParse windowStartedAt < 0 → dateParse later ≤ dateParse windowStartedAt) :
    isWithinQuotaWindow windowStartedAt windowSeconds later = true := by
  rw [isWithinQuotaWindow_iff positive] at within ⊢
  obtain ⟨aligned, -, position⟩ := within
  refine ⟨aligned, before, ?_⟩
  rcases lt_trichotomy (dateParse windowStartedAt) 0 with early | epoch | late
  · have := start early
    omega
  · omega
  · have := Int.le_of_dvd late aligned
    omega

theorem not_isWithinQuotaWindow_after (positive : 1 ≤ windowSeconds)
    (early : dateParse windowStartedAt < 0) (passed : dateParse windowStartedAt < dateParse now)
    (negative : dateParse now ≤ 0) :
    isWithinQuotaWindow windowStartedAt windowSeconds now = false := by
  rw [Bool.eq_false_iff, ne_eq, isWithinQuotaWindow_iff positive]
  rintro ⟨aligned, before, position⟩
  have := Int.le_of_dvd (Int.neg_pos_of_neg early) (Int.dvd_neg.mpr aligned)
  omega

end

section

variable {H : HashFunction} {snapshot : LockedApplicationAppendSnapshot}
  {expectation : ApplicationAppendExpectation} {now later : String} {append : AllowedAppend}
  {conversation : LockedConversationState} {membership : LockedSenderMembership}
  {bindings : List ExpectedAppendQuotaIdentity} {totalChargedBytes : Nat}
  {quotas : List LockedQuotaCounter}

private theorem first_none {a b : Option RejectionReason} :
    (a <|> b) = none ↔ a = none ∧ b = none := by
  cases a <;> simp

private theorem ite_some_eq_none {c : Prop} [Decidable c] {reason : RejectionReason}
    {rest : Option RejectionReason} : (if c then some reason else rest) = none ↔
      ¬ c ∧ rest = none := by
  by_cases h : c <;> simp [h]

theorem membershipRefusal_later
    (allowed : membershipRefusal conversation membership expectation now = none)
    (credential : later < membership.credentialExpiresAt) :
    membershipRefusal conversation membership expectation later = none := by
  unfold membershipRefusal at allowed ⊢
  simp only [ite_some_eq_none] at allowed ⊢
  exact ⟨allowed.1, allowed.2.1, allowed.2.2.1, not_le.mpr credential, trivial⟩

theorem sendGrantRefusal_later {sendGrant : LockedConversationSendGrant}
    (allowed : sendGrantRefusal H conversation membership sendGrant now = none)
    (order : now ≤ later) (role : later < sendGrant.roleCredentialValidUntil)
    (grant : later < sendGrant.expiresAt) :
    sendGrantRefusal H conversation membership sendGrant later = none := by
  unfold sendGrantRefusal at allowed ⊢
  simp only [ite_some_eq_none, not_or, and_true] at allowed ⊢
  obtain ⟨conversationId, installationId, credentialId, accountId, subjectId, validFrom,
    validUntil, interval, evidence, kind, generation, state, expiry, maySend⟩ := allowed
  exact ⟨conversationId, installationId, credentialId, accountId, subjectId,
    fun early => validFrom (order.trans_lt early), not_le.mpr role, interval, evidence, kind,
    generation, state, not_le.mpr grant, maySend⟩

theorem policyHeadRefusal_later (allowed : policyHeadRefusal snapshot expectation now = none)
    (order : now ≤ later) (head : later < snapshot.policyHead.expiresAt) :
    policyHeadRefusal snapshot expectation later = none := by
  unfold policyHeadRefusal at allowed ⊢
  simp only [ite_some_eq_none] at allowed ⊢
  obtain ⟨current, witnessed, live, rest⟩ := allowed
  refine ⟨current, witnessed, ?_, rest⟩
  rintro (early | early | expired)
  · exact live (.inl (order.trans_lt early))
  · exact live (.inr (.inl (order.trans_lt early)))
  · exact absurd head (not_lt.mpr expired)

theorem authorityRefusal_later (allowed : authorityRefusal H snapshot expectation now = none)
    (order : now ≤ later) (credential : later < snapshot.membership.credentialExpiresAt)
    (role : later < snapshot.sendGrant.roleCredentialValidUntil)
    (grant : later < snapshot.sendGrant.expiresAt) (head : later < snapshot.policyHead.expiresAt) :
    authorityRefusal H snapshot expectation later = none := by
  unfold authorityRefusal at allowed ⊢
  simp only [first_none] at allowed ⊢
  obtain ⟨conversation, membership, sendGrant, policyHead⟩ := allowed
  exact ⟨conversation, membershipRefusal_later membership credential,
    sendGrantRefusal_later sendGrant order role grant,
    policyHeadRefusal_later policyHead order head⟩

theorem reserveQuotas_congr
    (same : ∀ quota ∈ quotas, quotaIsBound bindings later quota = quotaIsBound bindings now quota) :
    reserveQuotas bindings totalChargedBytes later quotas =
      reserveQuotas bindings totalChargedBytes now quotas := by
  induction quotas with
  | nil => rfl
  | cons quota quotas ih =>
    obtain ⟨hquota, hquotas⟩ := List.forall_mem_cons.mp same
    simp only [reserveQuotas, reserveQuota, hquota, ih hquotas]

theorem bound_of_reserveQuotas
    {reserved : List ApplicationAppendQuotaCapacityDelta × List LockedQuotaCounter}
    (h : reserveQuotas bindings totalChargedBytes now quotas = .ok reserved) :
    ∀ quota ∈ quotas, quotaIsBound bindings now quota = true := by
  induction quotas generalizing reserved with
  | nil => exact fun _ hmem => absurd hmem List.not_mem_nil
  | cons quota quotas ih =>
    unfold reserveQuotas at h
    obtain ⟨⟨delta, first⟩, hfirst, h⟩ := bind_ok.mp h
    obtain ⟨rest, hrest, h⟩ := bind_ok.mp h
    refine List.forall_mem_cons.mpr ⟨?_, ih hrest⟩
    unfold reserveQuota at hfirst
    by_contra unbound
    rw [if_pos unbound] at hfirst
    cases hfirst

/-- An allowed append has passed the checks on the rows, and every counter row is bound. -/
structure Passes (H : HashFunction) (snapshot : LockedApplicationAppendSnapshot)
    (expectation : ApplicationAppendExpectation) (now : String) (append : AllowedAppend) :
    Prop where
  authority : authorityRefusal H snapshot expectation now = none
  usage : nextPositionAndUsage snapshot.conversation snapshot.usage
    expectation.envelopeByteLength expectation.attachmentByteLength =
      .ok (append.nextPosition, append.nextUsage)
  quotas : reserveQuotas snapshot.quotaBindings
    (expectation.envelopeByteLength + expectation.attachmentByteLength) now snapshot.quotas =
      .ok (append.quotaCapacityDeltas, append.postReservationQuotas)

theorem evaluate_eq_allowed_iff :
    evaluateLockedApplicationAppend H snapshot expectation now = .allowed append ↔
      Passes H snapshot expectation now append := by
  unfold evaluateLockedApplicationAppend
  constructor
  · intro h
    split at h
    · cases h
    · rename_i authority
      dsimp only at h
      split at h
      · cases h
      · rename_i usage
        split at h
        · cases h
        · rename_i quotas
          cases h
          exact ⟨authority, usage, quotas⟩
  · rintro ⟨authority, usage, quotas⟩
    simp only [authority, usage, quotas]

end

section

variable {H : HashFunction} {value snapshot : LockedApplicationAppendSnapshot}
  {expectation : ApplicationAppendExpectation} {append : AllowedAppend}
  {admissionStartedAt receivedAt signingKeyValidUntil expiresAt : String}
  {bindings : List ExpectedAppendQuotaIdentity} {quota : LockedQuotaCounter}

/-- No counter window that starts before the epoch starts while the append is pending: one of
the bounds of the pending ends it at the start or one millisecond after. -/
def StartsOutside (snapshot : LockedApplicationAppendSnapshot)
    (receivedAt signingKeyValidUntil : String) : Prop :=
  ∀ quota ∈ snapshot.quotas, dateParse quota.windowStartedAt < 0 →
    ∃ bound ∈ pendingBounds snapshot receivedAt signingKeyValidUntil,
      bound ≤ dateParse quota.windowStartedAt + 1

/-- The pending ends soon and within the life of its key, and up to its end the append is
decided as it was at its receipt. -/
structure AuthorizationLasts (H : HashFunction) (snapshot : LockedApplicationAppendSnapshot)
    (expectation : ApplicationAppendExpectation) (append : AllowedAppend)
    (receivedAt signingKeyValidUntil expiresAt : String) : Prop where
  afterReceipt : receivedAt < expiresAt
  withinTtl : dateParse expiresAt ≤ dateParse receivedAt + 30000
  withinKey : expiresAt ≤ signingKeyValidUntil
  sameDecision : ∀ instant, isRfc3339Millis instant = true → receivedAt ≤ instant →
    instant < expiresAt →
      evaluateLockedApplicationAppend H snapshot expectation instant = .allowed append

private theorem canonical_rows (parsed : parseLockedApplicationAppendSnapshot H value = .ok snapshot) :
    isRfc3339Millis snapshot.policyHead.expiresAt = true ∧
      isRfc3339Millis snapshot.membership.credentialExpiresAt = true ∧
      isRfc3339Millis snapshot.sendGrant.expiresAt = true ∧
      isRfc3339Millis snapshot.sendGrant.roleCredentialValidUntil = true := by
  have checks := (parseSnapshot_eq_ok.mp (parseSnapshot_idem parsed)).1
  have head := (checked_eq_ok.mp checks.policyHead).1
  have membership := (checked_eq_ok.mp checks.membership).1
  have grant := (checked_eq_ok.mp checks.sendGrant).1
  simp only [List.forall_mem_cons, pass_instant] at head membership grant
  obtain ⟨-, -, -, -, -, head, -⟩ := head
  obtain ⟨-, -, -, -, -, -, membership, -⟩ := membership
  obtain ⟨-, -, -, -, -, -, -, -, -, role, -, -, -, grant, -⟩ := grant
  exact ⟨head, membership, grant, role⟩

private theorem quotaIsBound_congr {now later : String}
    (bound : quotaIsBound bindings now quota = true)
    (within : isWithinQuotaWindow quota.windowStartedAt quota.windowSeconds now = true →
      isWithinQuotaWindow quota.windowStartedAt quota.windowSeconds later = true) :
    quotaIsBound bindings later quota = true := by
  unfold quotaIsBound at bound ⊢
  split at bound
  · cases bound
  · rw [Bool.and_eq_true] at bound ⊢
    exact ⟨bound.1, within bound.2⟩

private theorem within_of_bound {now : String} (bound : quotaIsBound bindings now quota = true) :
    isWithinQuotaWindow quota.windowStartedAt quota.windowSeconds now = true := by
  unfold quotaIsBound at bound
  split at bound
  · cases bound
  · exact (Bool.and_eq_true _ _ ▸ bound).2

theorem startsOutside_of_lasts
    (parsed : parseLockedApplicationAppendSnapshot H value = .ok snapshot)
    (allowed : evaluateLockedApplicationAppend H snapshot expectation receivedAt = .allowed append)
    (expires : Expires snapshot receivedAt signingKeyValidUntil expiresAt)
    (lasts : AuthorizationLasts H snapshot expectation append receivedAt signingKeyValidUntil
      expiresAt) :
    StartsOutside snapshot receivedAt signingKeyValidUntil := by
  intro quota hquota early
  by_contra outside
  push Not at outside
  have counters := parseLockedQuotaCounters_eq_ok (parseSnapshot_eq_ok.mp parsed).1.quotaRows
  have positive := (counters.valid quota hquota).windowSeconds.1
  have crossed := outside _ leastBound_mem
  rw [← expires.least] at crossed
  have beforeStart : dateParse receivedAt ≤ dateParse quota.windowStartedAt := by
    have passes := evaluate_eq_allowed_iff.mp allowed
    have within := within_of_bound (bound_of_reserveQuotas passes.quotas quota hquota)
    obtain ⟨aligned, before, position⟩ := (isWithinQuotaWindow_iff positive).mp within
    have := Int.le_of_dvd (Int.neg_pos_of_neg early) (Int.dvd_neg.mpr aligned)
    omega
  -- The millisecond after the start is a canonical instant of the pending.
  have first := (dateParse_range expires.received).1
  have last := (dateParse_range expires.canonical).2
  have rangeFirst : firstInstant ≤ dateParse quota.windowStartedAt + 1 := by omega
  have rangeLast : dateParse quota.windowStartedAt + 1 ≤ lastInstant := by omega
  obtain ⟨instant, -, hcanonical, hinstant⟩ := toISOString_spec rangeFirst rangeLast
  have order : receivedAt ≤ instant := by
    rw [le_iff_dateParse_le expires.received hcanonical, hinstant]
    omega
  have before : instant < expiresAt := by
    rw [lt_iff_dateParse_lt hcanonical expires.canonical, hinstant]
    exact crossed
  have passes := evaluate_eq_allowed_iff.mp (lasts.sameDecision instant hcanonical order before)
  have within := within_of_bound (bound_of_reserveQuotas passes.quotas quota hquota)
  rw [not_isWithinQuotaWindow_after positive early (by omega) (by omega)] at within
  cases within

theorem lasts_of_startsOutside
    (parsed : parseLockedApplicationAppendSnapshot H value = .ok snapshot)
    (allowed : evaluateLockedApplicationAppend H snapshot expectation receivedAt = .allowed append)
    (expires : Expires snapshot receivedAt signingKeyValidUntil expiresAt)
    (outside : StartsOutside snapshot receivedAt signingKeyValidUntil) :
    AuthorizationLasts H snapshot expectation append receivedAt signingKeyValidUntil
      expiresAt := by
  have passes := evaluate_eq_allowed_iff.mp allowed
  have boundRows := bound_of_reserveQuotas passes.quotas
  have counters := parseLockedQuotaCounters_eq_ok (parseSnapshot_eq_ok.mp parsed).1.quotaRows
  obtain ⟨head, credential, grant, role⟩ := canonical_rows parsed
  refine ⟨?_, ?_, ?_, ?_⟩
  · exact (lt_iff_dateParse_lt expires.received expires.canonical).mpr expires.after_receipt
  · exact expires.le_bound List.mem_cons_self
  · rw [le_iff_dateParse_le expires.canonical expires.signingKey]
    exact expires.le_bound (by simp [pendingBounds, authorityBounds])
  · intro instant hcanonical order before
    rw [lt_iff_dateParse_lt hcanonical expires.canonical] at before
    have beforeBound {bound : String} (hbound : isRfc3339Millis bound = true)
        (hmem : dateParse bound ∈ pendingBounds snapshot receivedAt signingKeyValidUntil) :
        instant < bound := by
      rw [lt_iff_dateParse_lt hcanonical hbound]
      exact before.trans_le (expires.le_bound hmem)
    have authority := authorityRefusal_later passes.authority order
      (beforeBound credential (by simp [pendingBounds, authorityBounds]))
      (beforeBound role (by simp [pendingBounds, authorityBounds]))
      (beforeBound grant (by simp [pendingBounds, authorityBounds]))
      (beforeBound head (by simp [pendingBounds, authorityBounds]))
    have sameRows : ∀ quota ∈ snapshot.quotas,
        quotaIsBound snapshot.quotaBindings instant quota =
          quotaIsBound snapshot.quotaBindings receivedAt quota := by
      intro quota hquota
      have positive := (counters.valid quota hquota).windowSeconds.1
      have ends : dateParse expiresAt ≤ windowEnd quota :=
        expires.le_bound (List.mem_cons_of_mem _ (List.mem_append_right _
          (List.mem_map_of_mem hquota)))
      rw [boundRows quota hquota]
      refine quotaIsBound_congr (boundRows quota hquota) fun within => ?_
      refine isWithinQuotaWindow_later positive within
        ((le_iff_dateParse_le expires.received hcanonical).mp order) (before.trans_le ends) ?_
      intro early
      obtain ⟨bound, hbound, hstart⟩ := outside quota hquota early
      have := expires.le_bound hbound
      omega
    rw [evaluate_eq_allowed_iff]
    refine ⟨authority, passes.usage, ?_⟩
    rw [reserveQuotas_congr sameRows, passes.quotas]

/-- The authorization cannot lapse inside the pending window, exactly when no counter window
before the epoch starts inside it. -/
theorem authorization_lasts_iff
    (parsed : parseLockedApplicationAppendSnapshot H value = .ok snapshot)
    (allowed : evaluateLockedApplicationAppend H snapshot expectation receivedAt = .allowed append)
    (expiry : computeApplicationAppendPendingExpiresAt H
      ⟨snapshot, admissionStartedAt, receivedAt, signingKeyValidUntil⟩ = .ok expiresAt) :
    AuthorizationLasts H snapshot expectation append receivedAt signingKeyValidUntil expiresAt ↔
      StartsOutside snapshot receivedAt signingKeyValidUntil := by
  have expires := compute_eq_ok (parseSnapshot_idem parsed) expiry
  exact ⟨startsOutside_of_lasts parsed allowed expires,
    lasts_of_startsOutside parsed allowed expires⟩

end

section

variable (H : HashFunction) (sender : SampleSender) (version : QuotaScope → Nat)

def sampleExpectation : ApplicationAppendExpectation :=
  ⟨sampleRealm, sender.conversationId, sender.accountId, sender.installationId, sampleCredential,
    sampleHash32 11, 1, "profile", sampleHash32 2, sampleQuotaPolicyDigest H sender,
    sender.projectScopeId, sampleTenant, sampleHash32 5, "\"e3-r2\"", 3, 2, sampleHash32 8,
    "66666666-6666-4666-8666-666666666666", 4, sampleHash32 10, 5, sampleHash32 9, 100, 20⟩

def sampleAppend : AllowedAppend :=
  ⟨6, ⟨sender.conversationId, 6, 600, 20, 100, 10000, 10000⟩,
    (sampleQuotas H sender version).map (deltaOf 120),
    (sampleQuotas H sender version).map (reservedBy 120)⟩

variable {H sender version} {now : String}

theorem sampleQuotas_reserved (valid : sender.Valid) (small : ∀ scope, version scope < uint63Max)
    (within : isWithinQuotaWindow sender.windowStartedAt 86400 now = true) :
    reserveQuotas (sampleBindings H sender) 120 now (sampleQuotas H sender version) =
      .ok ((sampleQuotas H sender version).map (deltaOf 120),
        (sampleQuotas H sender version).map (reservedBy 120)) := by
  have counters : Counters (sampleQuotas H sender version) :=
    sampleQuotas_counters valid fun scope => (small scope).le
  have rows : ∀ quota ∈ sampleQuotas H sender version, ∃ scope : QuotaScope,
      quota = ⟨scope, (sampleBinding H sender scope).scopeHash, "application-append",
        sender.windowStartedAt, 86400, 0, 0, 0, 0, version scope, 1000, 1048576⟩ := by
    intro quota hquota
    simp only [sampleQuotas, sampleBindings, List.map_map, List.mem_map] at hquota
    obtain ⟨scope, -, rfl⟩ := hquota
    exact ⟨scope, rfl⟩
  refine reserveQuotas_of_room counters.valid ?_ ?_
  · intro quota hquota
    obtain ⟨scope, rfl⟩ := rows quota hquota
    cases scope <;> simp [quotaIsBound, sampleBindings, quotaScopes, sampleBinding, within]
  · intro quota hquota
    obtain ⟨scope, rfl⟩ := rows quota hquota
    exact ⟨by simp, by simp, small scope⟩

theorem sample_allowed (valid : sender.Valid) (small : ∀ scope, version scope < uint63Max)
    (started : sender.validFrom ≤ now) (running : now < sender.validUntil)
    (issued : sender.issuedAt ≤ now) (fresh : now < sender.expiresAt)
    (within : isWithinQuotaWindow sender.windowStartedAt 86400 now = true) :
    evaluateLockedApplicationAppend H (sampleSnapshot H sender version)
      (sampleExpectation H sender) now = .allowed (sampleAppend H sender version) := by
  rw [evaluate_eq_allowed_iff]
  refine ⟨?_, ?_, ?_⟩
  · have etag : "\"e" ++ (3 : Nat).repr ++ "-r" ++ (2 : Nat).repr ++ "\"" = "\"e3-r2\"" :=
      rfl
    simp [authorityRefusal, conversationRefusal, membershipRefusal, sendGrantRefusal,
      policyHeadRefusal, sampleSnapshot, sampleConversation, sampleMembership, samplePolicyHead,
      sampleGrant, sampleExpectation, etag, running, fresh, not_lt.mpr started,
      not_lt.mpr issued]
    exact ⟨if_neg (not_le.mpr running), String.lt_iff_ltb.mp (started.trans_lt running), rfl,
      rfl⟩
  · rfl
  · exact sampleQuotas_reserved valid small within

theorem expires_of_least {snapshot : LockedApplicationAppendSnapshot}
    {admissionStartedAt signingKeyValidUntil expiresAt : String}
    (parsed : parseLockedApplicationAppendSnapshot H snapshot = .ok snapshot)
    (admission : isRfc3339Millis admissionStartedAt = true) (received : isRfc3339Millis now = true)
    (signingKey : isRfc3339Millis signingKeyValidUntil = true)
    (expiry : isRfc3339Millis expiresAt = true)
    (age : ¬ (dateParse now < dateParse admissionStartedAt ∨
      dateParse now - dateParse admissionStartedAt > admissionMaxAgeMilliseconds))
    (live : ¬ ∃ bound ∈ pendingBounds snapshot now signingKeyValidUntil, bound ≤ dateParse now)
    (least : leastBound snapshot now signingKeyValidUntil = dateParse expiresAt) :
    computeApplicationAppendPendingExpiresAt H ⟨snapshot, admissionStartedAt, now,
      signingKeyValidUntil⟩ = .ok expiresAt := by
  unfold computeApplicationAppendPendingExpiresAt
  refine bind_ok.mpr ⟨_, parsed, ?_⟩
  refine bind_ok.mpr ⟨_, parseRfc3339Millis_eq_ok.mpr ⟨admission, rfl⟩, ?_⟩
  refine bind_ok.mpr ⟨_, parseRfc3339Millis_eq_ok.mpr ⟨received, rfl⟩, ?_⟩
  refine bind_ok.mpr ⟨_, parseRfc3339Millis_eq_ok.mpr ⟨signingKey, rfl⟩, ?_⟩
  rw [if_neg age, if_neg live, least]
  unfold parseInstant
  rw [toISOString_dateParse expiry]
  exact parseRfc3339Millis_eq_ok.mpr ⟨expiry, rfl⟩

/-- A pending of the sample ends thirty seconds after its receipt, and is allowed until then. -/
theorem sample_authorization_lasts :
    AuthorizationLasts sampleHash (sampleSnapshot sampleHash sampleSender fun _ => 8)
      (sampleExpectation sampleHash sampleSender)
      (sampleAppend sampleHash sampleSender fun _ => 8) "2024-03-01T12:00:30.000Z"
      "2024-06-01T00:00:00.000Z" "2024-03-01T12:01:00.000Z" := by
  have parsed : parseLockedApplicationAppendSnapshot sampleHash
      (sampleSnapshot sampleHash sampleSender fun _ => 8) = .ok _ :=
    sampleSnapshot_parses sampleSender_valid fun _ => by decide
  have allowed : evaluateLockedApplicationAppend sampleHash
      (sampleSnapshot sampleHash sampleSender fun _ => 8)
      (sampleExpectation sampleHash sampleSender) "2024-03-01T12:00:30.000Z" = .allowed _ :=
    sample_allowed sampleSender_valid (fun _ => by decide) (by decide +kernel) (by decide +kernel)
      (by decide +kernel) (by decide +kernel) rfl
  have expiry : computeApplicationAppendPendingExpiresAt sampleHash
      ⟨sampleSnapshot sampleHash sampleSender fun _ => 8, "2024-03-01T12:00:29.000Z",
        "2024-03-01T12:00:30.000Z", "2024-06-01T00:00:00.000Z"⟩ =
        .ok "2024-03-01T12:01:00.000Z" :=
    expires_of_least parsed rfl rfl rfl rfl (by decide +kernel) (by decide +kernel) rfl
  refine (authorization_lasts_iff parsed allowed expiry).mpr ?_
  unfold StartsOutside
  decide +kernel

/-- Rows of the last days of 1969. -/
def earlySender : SampleSender :=
  { sampleSender with
    windowStartedAt := "1969-12-31T00:00:00.000Z"
    validFrom := "1969-01-01T00:00:00.000Z"
    validUntil := "1969-12-31T23:59:59.999Z"
    issuedAt := "1969-12-30T23:59:00.000Z"
    expiresAt := "1969-12-31T00:03:00.000Z" }

theorem earlySender_valid : earlySender.Valid := by
  constructor <;> decide +kernel

/-- Ten milliseconds before a counter window starts the append is allowed, with a pending of
thirty seconds; ten seconds into the window it is not. -/
theorem early_authorization_lapses :
    parseLockedApplicationAppendSnapshot sampleHash
        (sampleSnapshot sampleHash earlySender fun _ => 8) =
      .ok (sampleSnapshot sampleHash earlySender fun _ => 8) ∧
    evaluateLockedApplicationAppend sampleHash (sampleSnapshot sampleHash earlySender fun _ => 8)
        (sampleExpectation sampleHash earlySender) "1969-12-30T23:59:59.990Z" =
      .allowed (sampleAppend sampleHash earlySender fun _ => 8) ∧
    computeApplicationAppendPendingExpiresAt sampleHash
        ⟨sampleSnapshot sampleHash earlySender fun _ => 8, "1969-12-30T23:59:59.000Z",
          "1969-12-30T23:59:59.990Z", "1969-12-31T12:00:00.000Z"⟩ =
      .ok "1969-12-31T00:00:29.990Z" ∧
    isRfc3339Millis "1969-12-31T00:00:10.000Z" = true ∧
    "1969-12-30T23:59:59.990Z" ≤ "1969-12-31T00:00:10.000Z" ∧
    "1969-12-31T00:00:10.000Z" < "1969-12-31T00:00:29.990Z" ∧
    evaluateLockedApplicationAppend sampleHash (sampleSnapshot sampleHash earlySender fun _ => 8)
        (sampleExpectation sampleHash earlySender) "1969-12-31T00:00:10.000Z" ≠
      .allowed (sampleAppend sampleHash earlySender fun _ => 8) := by
  refine ⟨?_, ?_, ?_, by rfl, by decide +kernel, by decide +kernel, ?_⟩
  · exact sampleSnapshot_parses earlySender_valid fun _ => by decide
  · exact sample_allowed earlySender_valid (fun _ => by decide) (by decide +kernel)
      (by decide +kernel) (by decide +kernel) (by decide +kernel) rfl
  · exact expires_of_least (sampleSnapshot_parses earlySender_valid fun _ => by decide) rfl rfl rfl
      rfl (by decide +kernel) (by decide +kernel) (by decide +kernel)
  · intro allowed
    have bound := bound_of_reserveQuotas (evaluate_eq_allowed_iff.mp allowed).quotas
    have within := within_of_bound (bound _ List.mem_cons_self)
    revert within
    decide +kernel

end

end JbChat.Delivery.PendingExpiry
