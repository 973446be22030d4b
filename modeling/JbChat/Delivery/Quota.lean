/- source: src/production/delivery/state.ts, appendPersistence.ts
   digest: Quota counters, capacity reservations, and the conversion that ends a reservation. -/

import JbChat.Delivery.Snapshot

set_option autoImplicit false

namespace JbChat.Delivery.Quota

open Foundation Foundation.HashTrace Foundation.LengthPrefix ValueObjects Hashes Instants Snapshot

inductive ReservationState where
  | live
  | consumed
  | released
deriving DecidableEq

structure ApplicationAppendQuotaCapacityReservation extends
    ApplicationAppendQuotaCapacityDelta where
  reservationId : Bytes
  pendingPreparationDigest : Bytes
  fenceGeneration : Nat
  fenceTokenHash : Bytes
  state : ReservationState
deriving DecidableEq

/-- A counter is parsed from its decimal text. -/
def checkUint63 (value : Nat) (label : String) : Except Failure Nat :=
  parseUint63String value.repr label

def parsePositiveUint63 (value : Nat) (label : String) : Except Failure Nat := do
  let parsed ← checkUint63 value label
  if parsed = 0 then .error (.invalid (label ++ " must be positive."))
  else .ok parsed

def checkHash32 (value : Bytes) (label : String) : Except Failure Bytes :=
  decodeHash32 (Base64Url.encode value) label

def parseNonZeroHash32 (value : Bytes) (label : String) : Except Failure Bytes := do
  let parsed ← checkHash32 value label
  if parsed = List.replicate 32 0 then
    .error (.invalid (label ++ " cannot use the reserved zero hash."))
  else .ok parsed

/-- `/^[a-z0-9][a-z0-9._-]{0,63}$/`, the pattern of signing key IDs too. -/
def parseQuotaName (value label : String) : Except Failure String :=
  if isSigningKeyId value then .ok value
  else .error (.invalid (label ++ " must be bounded canonical lowercase ASCII."))

def parseLockedQuotaCounter (quota : LockedQuotaCounter) (index : Nat) :
    Except Failure LockedQuotaCounter := do
  let label := "locked quota " ++ index.repr
  let scopeHash ← checkHash32 quota.scopeHash (label ++ " scope hash")
  let quotaName ← parseQuotaName quota.quotaName (label ++ " name")
  let windowStartedAt ← parseRfc3339Millis quota.windowStartedAt (label ++ " window start")
  let windowSeconds ← parsePositiveUint63 quota.windowSeconds (label ++ " window seconds")
  let operationCount ← checkUint63 quota.operationCount (label ++ " operation count")
  let byteCount ← checkUint63 quota.byteCount (label ++ " byte count")
  let reservedOperationCount ← checkUint63 quota.reservedOperationCount
    (label ++ " reserved operation count")
  let reservedByteCount ← checkUint63 quota.reservedByteCount (label ++ " reserved byte count")
  let rowVersion ← checkUint63 quota.rowVersion (label ++ " row version")
  let operationLimit ← checkUint63 quota.operationLimit (label ++ " operation limit")
  let byteLimit ← checkUint63 quota.byteLimit (label ++ " byte limit")
  if operationCount + reservedOperationCount > operationLimit ∨
      byteCount + reservedByteCount > byteLimit then
    .error (.invalid ("Locked quota " ++ index.repr ++ " already exceeds its hard limit."))
  else
    .ok ⟨quota.scope, scopeHash, quotaName, windowStartedAt, windowSeconds, operationCount,
      byteCount, reservedOperationCount, reservedByteCount, rowVersion, operationLimit, byteLimit⟩

def parseEach {α β : Type} (parse : α → Nat → Except Failure β) :
    List α → Nat → Except Failure (List β)
  | [], _ => .ok []
  | entry :: entries, index => do
    let parsed ← parse entry index
    let others ← parseEach parse entries (index + 1)
    .ok (parsed :: others)

def orderByScope {α : Type} (scope : α → QuotaScope) (rows : List α) (message : String) :
    Except Failure (List α) :=
  if quotaScopes.any fun s => decide ((rows.filter fun row => decide (scope row = s)).length ≠ 1) then
    .error (.invalid message)
  else .ok (quotaScopes.filterMap fun s => rows.find? fun row => decide (scope row = s))

def parseLockedQuotaCounters (value : List LockedQuotaCounter) :
    Except Failure (List LockedQuotaCounter) := do
  if value.length ≠ quotaScopes.length then
    .error (.invalid "Every mandatory append quota scope must be locked exactly once.")
  else
    let quotas ← parseEach parseLockedQuotaCounter value 0
    orderByScope LockedQuotaCounter.scope quotas "Append quota scopes are missing or duplicated."

def parseQuotaCapacityDeltaRecord (delta : ApplicationAppendQuotaCapacityDelta) (index : Nat) :
    Except Failure ApplicationAppendQuotaCapacityDelta := do
  let label := "append quota capacity delta " ++ index.repr
  let rowVersionBefore ← checkUint63 delta.rowVersionBefore "counter"
  let rowVersionAfter ← checkUint63 delta.rowVersionAfter "counter"
  if delta.reservationOperationCount ≠ 1 ∨
      addUint63 rowVersionBefore 1 ≠ some rowVersionAfter then
    .error (.invalid "Append quota capacity delta or row fence is invalid.")
  else
    let scopeHash ← checkHash32 delta.scopeHash "hash"
    let quotaName ← parseQuotaName delta.quotaName (label ++ " name")
    let windowStartedAt ← parseRfc3339Millis delta.windowStartedAt "timestamp"
    let windowSeconds ← parsePositiveUint63 delta.windowSeconds "quota window seconds"
    let reservationByteCount ← checkUint63 delta.reservationByteCount "counter"
    .ok ⟨delta.scope, scopeHash, quotaName, windowStartedAt, windowSeconds, 1,
      reservationByteCount, rowVersionBefore, rowVersionAfter⟩

def parseApplicationAppendQuotaCapacityDeltas (value : List ApplicationAppendQuotaCapacityDelta) :
    Except Failure (List ApplicationAppendQuotaCapacityDelta) := do
  if value.length ≠ quotaScopes.length then
    .error (.invalid "Every append quota row requires one capacity reservation.")
  else
    let parsed ← parseEach parseQuotaCapacityDeltaRecord value 0
    orderByScope ApplicationAppendQuotaCapacityDelta.scope parsed
      "Append quota capacity reservation scopes are incomplete."

def quotaReservationIdDomain : String := "jb-msg-application-append-quota-reservation-id/v1"

def quotaReservationIdInput (pendingPreparationDigest : Bytes) (fenceGeneration : Nat)
    (fenceTokenHash : Bytes) (delta : ApplicationAppendQuotaCapacityDelta) : List Bytes :=
  [utf8 quotaReservationIdDomain,
    lengthPrefixed [pendingPreparationDigest, utf8 fenceGeneration.repr, fenceTokenHash,
      utf8 delta.scope.text, delta.scopeHash, utf8 delta.quotaName, utf8 delta.windowStartedAt,
      utf8 delta.windowSeconds.repr, utf8 delta.reservationOperationCount.repr,
      utf8 delta.reservationByteCount.repr, utf8 delta.rowVersionBefore.repr,
      utf8 delta.rowVersionAfter.repr]]

def computeApplicationAppendQuotaReservationId (H : HashFunction)
    (pendingPreparationDigest : Bytes) (fenceGeneration : Nat) (fenceTokenHash : Bytes)
    (delta : ApplicationAppendQuotaCapacityDelta) : Bytes :=
  sha256Bytes H (quotaReservationIdInput pendingPreparationDigest fenceGeneration fenceTokenHash
    delta)

def bindReservation (H : HashFunction) (pendingPreparationDigest : Bytes) (fenceGeneration : Nat)
    (fenceTokenHash : Bytes) (delta : ApplicationAppendQuotaCapacityDelta) :
    ApplicationAppendQuotaCapacityReservation :=
  ⟨delta, computeApplicationAppendQuotaReservationId H pendingPreparationDigest fenceGeneration
    fenceTokenHash delta, pendingPreparationDigest, fenceGeneration, fenceTokenHash, .live⟩

def bindApplicationAppendQuotaCapacityReservations (H : HashFunction)
    (deltas : List ApplicationAppendQuotaCapacityDelta) (pendingPreparationDigest : Bytes)
    (fenceGeneration : Nat) (fenceTokenHash : Bytes) :
    Except Failure (List ApplicationAppendQuotaCapacityReservation) := do
  let deltas ← parseApplicationAppendQuotaCapacityDeltas deltas
  let pendingPreparationDigest ← checkHash32 pendingPreparationDigest "hash"
  let fenceGeneration ← parsePositiveUint63 fenceGeneration "quota reservation fence generation"
  let fenceTokenHash ← parseNonZeroHash32 fenceTokenHash "quota reservation fence token hash"
  .ok (deltas.map (bindReservation H pendingPreparationDigest fenceGeneration fenceTokenHash))

def parseReservation (H : HashFunction) (reservation : ApplicationAppendQuotaCapacityReservation)
    (index : Nat) : Except Failure ApplicationAppendQuotaCapacityReservation := do
  let label := "owned quota reservation " ++ index.repr
  let delta ← parseQuotaCapacityDeltaRecord reservation.toApplicationAppendQuotaCapacityDelta index
  let pendingPreparationDigest ← checkHash32 reservation.pendingPreparationDigest "hash"
  let fenceGeneration ← parsePositiveUint63 reservation.fenceGeneration
    (label ++ " fence generation")
  let fenceTokenHash ← parseNonZeroHash32 reservation.fenceTokenHash (label ++ " fence token hash")
  let reservationId ← parseNonZeroHash32 reservation.reservationId (label ++ " ID")
  if reservationId ≠ computeApplicationAppendQuotaReservationId H pendingPreparationDigest
      fenceGeneration fenceTokenHash delta then
    .error (.invalid "Owned quota reservation ID is inconsistent.")
  else
    .ok ⟨delta, reservationId, pendingPreparationDigest, fenceGeneration, fenceTokenHash,
      reservation.state⟩

def parseApplicationAppendQuotaCapacityReservations (H : HashFunction)
    (value : List ApplicationAppendQuotaCapacityReservation) :
    Except Failure (List ApplicationAppendQuotaCapacityReservation) := do
  if value.length ≠ quotaScopes.length then
    .error (.invalid "Every append quota row requires one owned capacity reservation.")
  else
    let parsed ← parseEach (parseReservation H) value 0
    let ordered ← orderByScope (fun reservation => reservation.scope) parsed
      "Owned quota reservation scopes are incomplete."
    if ¬ (ordered.map fun reservation => reservation.reservationId).Nodup then
      .error (.invalid "Owned quota reservation IDs are duplicated.")
    else .ok ordered

inductive ConversionMode where
  | finalize
  | release
deriving DecidableEq

def ConversionMode.terminalState : ConversionMode → ReservationState
  | .finalize => .consumed
  | .release => .released

structure QuotaConversionInput where
  currentQuotas : List LockedQuotaCounter
  currentCapacityReservations : List ApplicationAppendQuotaCapacityReservation
  pendingPreparationDigest : Bytes
  fenceGeneration : Nat
  fenceTokenHash : Bytes
  preparedFinalQuotas : List LockedQuotaCounter
  preparedFinalReservations : List ApplicationAppendQuotaCapacityReservation

structure QuotaConversion where
  quotas : List LockedQuotaCounter
  reservations : List ApplicationAppendQuotaCapacityReservation

/-- A consumed count grows when the append is finalized and stays when it is released. -/
def convertCount (mode : ConversionMode) (count reservation : Nat) : Option Nat :=
  match mode with
  | .finalize => addUint63 count reservation
  | .release => some count

def convertRow (mode : ConversionMode) (quota : LockedQuotaCounter)
    (reservation : ApplicationAppendQuotaCapacityReservation) :
    Except Failure LockedQuotaCounter :=
  if reservation.scopeHash ≠ quota.scopeHash ∨ reservation.quotaName ≠ quota.quotaName ∨
      reservation.windowStartedAt ≠ quota.windowStartedAt ∨
      reservation.windowSeconds ≠ quota.windowSeconds ∨
      quota.rowVersion < reservation.rowVersionAfter ∨
      quota.reservedOperationCount < reservation.reservationOperationCount ∨
      quota.reservedByteCount < reservation.reservationByteCount then
    .error (.invalid "Quota capacity reservation is not live on its exact row.")
  else
    match addUint63 quota.rowVersion 1,
        subtractUint63 quota.reservedOperationCount reservation.reservationOperationCount,
        subtractUint63 quota.reservedByteCount reservation.reservationByteCount,
        convertCount mode quota.operationCount reservation.reservationOperationCount,
        convertCount mode quota.byteCount reservation.reservationByteCount with
    | some rowVersion, some reservedOperationCount, some reservedByteCount, some operationCount,
        some byteCount =>
        if operationCount + reservedOperationCount > quota.operationLimit ∨
            byteCount + reservedByteCount > quota.byteLimit then
          .error (.invalid "Quota capacity conversion overflows or exceeds its row.")
        else
          .ok { quota with
            operationCount := operationCount
            byteCount := byteCount
            reservedOperationCount := reservedOperationCount
            reservedByteCount := reservedByteCount
            rowVersion := rowVersion }
    | _, _, _, _, _ =>
      .error (.invalid "Quota capacity conversion overflows or exceeds its row.")

def convertRows (mode : ConversionMode)
    (reservations : List ApplicationAppendQuotaCapacityReservation) :
    List LockedQuotaCounter → Except Failure (List LockedQuotaCounter)
  | [] => .ok []
  | quota :: quotas => do
    let converted ← match reservations.find? fun reservation =>
        decide (reservation.scope = quota.scope) with
      | none => .error (.invalid "Cannot read properties of undefined (reading 'scopeHash')")
      | some reservation => convertRow mode quota reservation
    let others ← convertRows mode reservations quotas
    .ok (converted :: others)

def validateQuotaCapacityConversion (H : HashFunction) (input : QuotaConversionInput)
    (mode : ConversionMode) : Except Failure QuotaConversion := do
  let current ← parseLockedQuotaCounters input.currentQuotas
  let reservations ← parseApplicationAppendQuotaCapacityReservations H
    input.currentCapacityReservations
  let pendingPreparationDigest ← checkHash32 input.pendingPreparationDigest "hash"
  let fenceGeneration ← parsePositiveUint63 input.fenceGeneration
    "quota conversion fence generation"
  let fenceTokenHash ← parseNonZeroHash32 input.fenceTokenHash "quota conversion token hash"
  if reservations.any fun reservation => decide (reservation.state ≠ .live ∨
      reservation.pendingPreparationDigest ≠ pendingPreparationDigest ∨
      reservation.fenceGeneration ≠ fenceGeneration ∨
      reservation.fenceTokenHash ≠ fenceTokenHash) then
    .error (.invalid "Quota capacity reservation is not owned by this exact live pending.")
  else
    let expected ← convertRows mode reservations current
    let prepared ← parseLockedQuotaCounters input.preparedFinalQuotas
    let preparedReservations ← parseApplicationAppendQuotaCapacityReservations H
      input.preparedFinalReservations
    let expectedReservations := reservations.map fun reservation =>
      { reservation with state := mode.terminalState }
    if prepared ≠ expected then
      .error (.invalid "Prepared quota capacity conversion is not additive.")
    else if preparedReservations ≠ expectedReservations then
      .error (.invalid "Prepared quota reservation terminal state is not exact.")
    else .ok ⟨prepared, preparedReservations⟩

def uint63FromBigInt (value : Int) : Except Failure Nat :=
  if value < 0 ∨ value > uint63Max then .error (.invalid "counter must be a uint63 bigint.")
  else .ok value.toNat

/-- What the quota conversion reads of a pending append intent. -/
structure PendingQuota where
  postReservationQuotas : List LockedQuotaCounter
  quotaCapacityReservations : List ApplicationAppendQuotaCapacityReservation
  preparationDigest : Bytes
  fenceGeneration : Nat
  fenceTokenHash : Bytes

def prepareCount (mode : ConversionMode) (count reservation : Nat) : Except Failure Nat :=
  match mode with
  | .finalize => uint63FromBigInt ((count : Int) + reservation)
  | .release => .ok count

def prepareRow (mode : ConversionMode) (reservation : ApplicationAppendQuotaCapacityReservation)
    (quota : LockedQuotaCounter) : Except Failure LockedQuotaCounter := do
  let operationCount ← prepareCount mode quota.operationCount reservation.reservationOperationCount
  let byteCount ← prepareCount mode quota.byteCount reservation.reservationByteCount
  let reservedOperationCount ← uint63FromBigInt
    ((quota.reservedOperationCount : Int) - reservation.reservationOperationCount)
  let reservedByteCount ← uint63FromBigInt
    ((quota.reservedByteCount : Int) - reservation.reservationByteCount)
  let rowVersion ← uint63FromBigInt ((quota.rowVersion : Int) + 1)
  .ok { quota with
    operationCount := operationCount
    byteCount := byteCount
    reservedOperationCount := reservedOperationCount
    reservedByteCount := reservedByteCount
    rowVersion := rowVersion }

def prepareRows (mode : ConversionMode)
    (reservations : List ApplicationAppendQuotaCapacityReservation) :
    List LockedQuotaCounter → Except Failure (List LockedQuotaCounter)
  | [] => .ok []
  | quota :: quotas => do
    let prepared ← match reservations.find? fun reservation =>
        decide (reservation.scope = quota.scope) with
      | none => .error (.invalid "Quota reservation scope disappeared in persistence.")
      | some reservation => prepareRow mode reservation quota
    let others ← prepareRows mode reservations quotas
    .ok (prepared :: others)

def quotaConversionInput (pending : PendingQuota) (mode : ConversionMode) :
    Except Failure QuotaConversionInput := do
  let preparedFinalQuotas ← prepareRows mode pending.quotaCapacityReservations
    pending.postReservationQuotas
  .ok ⟨pending.postReservationQuotas, pending.quotaCapacityReservations, pending.preparationDigest,
    pending.fenceGeneration, pending.fenceTokenHash, preparedFinalQuotas,
    pending.quotaCapacityReservations.map fun reservation =>
      { reservation with state := mode.terminalState }⟩

def convertQuotaCapacity (H : HashFunction) (pending : PendingQuota) (mode : ConversionMode) :
    Except Failure (List LockedQuotaCounter) := do
  let input ← quotaConversionInput pending mode
  let conversion ← validateQuotaCapacityConversion H input mode
  .ok conversion.quotas

end JbChat.Delivery.Quota
