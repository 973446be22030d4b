/- source: src/server/dev-messaging/store.ts, src/shared/protocol.ts
   digest: The shared room of a customer and the staff, and how its envelopes are opened. -/

import JbChat.Domain.FulfillmentSafety
import JbChat.Foundation.CodeUnits
import Mathlib.Data.List.Sort

/-!
The text of an encoded event stands as the event. What `Date.parse` makes of a text is a parameter.
-/

set_option autoImplicit false

namespace JbChat.Domain.SharedRoom

open Domain Fulfillment Foundation
open Foundation.CodeUnits (utf16Length)

structure SharedRosterMember where
  participantId : String
  role : AuthenticatedParticipantRole
  joinedAt : Nat
deriving DecidableEq

structure SharedConversation where
  rosterVersion : Nat
  epoch : Nat
  roster : List SharedRosterMember
deriving DecidableEq

def deviceIdFor (participantId : String) : String := "dev_http_device_" ++ participantId

def fingerprintFor (participantId : String) : String := "dev-http-simulation-" ++ participantId

def sharedDisplayName (member : SharedRosterMember) (index : Nat) : String :=
  match member.role with
  | .customer => "Customer shared browser"
  | .projectStaff =>
    "Project-team shared browser" ++ (if 1 < index then " " ++ toString index else "")

def rosterVersionText (rosterVersion : Nat) : String := "dev-http-" ++ toString rosterVersion

def sharedRosterFromConversation (conversation : SharedConversation) : RecipientRosterBinding := {
  rosterVersion := rosterVersionText conversation.rosterVersion
  mlsEpoch := .integer conversation.epoch
  recipientDeviceFingerprints := conversation.roster.map fun member =>
    fingerprintFor member.participantId
  devices := .listed (conversation.roster.mapIdx fun index member => {
    participantId := member.participantId
    deviceId := deviceIdFor member.participantId
    deviceFingerprint := fingerprintFor member.participantId
    displayName := sharedDisplayName member index
    role := some member.role }) }

def withoutDevices (binding : RecipientRosterBinding) : RecipientRosterBinding :=
  { binding with devices := .missing }

def rosterBindingFromSnapshot (roster : RecipientRosterBinding) : Option RecipientRosterBinding :=
  if isValidRosterSnapshot roster then some (withoutDevices roster) else none

/-- Device order is presentation-only; the approved set itself must match. -/
def rosterBindingsEqual (left right : RecipientRosterBinding) : Bool :=
  if !isValidRosterBinding left || !isValidRosterBinding right ||
      left.rosterVersion != right.rosterVersion || left.mlsEpoch != right.mlsEpoch ||
      left.recipientDeviceFingerprints.length != right.recipientDeviceFingerprints.length then
    false
  else sameFingerprintSet left.recipientDeviceFingerprints right.recipientDeviceFingerprints

def hasBothRoles (conversation : SharedConversation) : Bool :=
  conversation.roster.any (fun member => member.role = .customer) &&
    conversation.roster.any (fun member => member.role = .projectStaff)

section

def isBounded (minimum maximum : Nat) (text : String) : Bool :=
  decide (minimum ≤ utf16Length text ∧ utf16Length text ≤ maximum)

def isIdentifierStart (c : Char) : Bool :=
  ('A' ≤ c && c ≤ 'Z') || ('a' ≤ c && c ≤ 'z') || ('0' ≤ c && c ≤ '9')

def isIdentifierChar (c : Char) : Bool :=
  isIdentifierStart c || c = '.' || c = '_' || c = ':' || c = '-'

def isIdentifier (text : String) : Bool :=
  isBounded 1 128 text &&
    match text.toList with
    | [] => false
    | first :: rest => isIdentifierStart first && rest.all isIdentifierChar

def isInteger (minimum : Int) : Number → Bool
  | .integer value => Number.isSafeInteger (.integer value) && decide (minimum ≤ value)
  | .other _ => false

def isShippingAddress (address : ShippingAddress) : Bool :=
  isBounded 0 512 address.recipientName && isBounded 0 512 address.line1 &&
    isBounded 0 512 address.line2 && isBounded 0 512 address.city &&
    isBounded 0 512 address.region && isBounded 0 128 address.postalCode &&
    isBounded 0 256 address.country && isBounded 0 240 address.deliveryNote

def isRosterBinding (binding : RecipientRosterBinding) : Bool :=
  binding.recipientDeviceFingerprints.all (isBounded 1 256) &&
    !binding.recipientDeviceFingerprints.isEmpty &&
    decide binding.recipientDeviceFingerprints.Nodup && isBounded 1 128 binding.rosterVersion &&
    isInteger 0 binding.mlsEpoch

variable (dateParses : String → Bool)

/-- `dateParses`: what `Date.parse` makes of a text is finite. -/
def isEventBase (base : EventBase) : Bool :=
  isBounded 1 128 base.id && isBounded 1 64 base.createdAt && dateParses base.createdAt

def parseSupportEvent : SupportEvent → Option SupportEvent
  | .text event =>
    if isEventBase dateParses event.toEventBase && isBounded 1 4000 event.body then
      some (.text event)
    else none
  | .addressRequest event =>
    if isEventBase dateParses event.toEventBase && isBounded 1 1000 event.reason then
      some (.addressRequest event)
    else none
  | .shippingAddress event =>
    if isEventBase dateParses event.toEventBase && isIdentifier event.addressId &&
        isInteger 1 event.version && isShippingAddress event.address &&
        isRosterBinding event.approvedRoster then
      some (.shippingAddress
        { event with approvedRoster := withoutDevices event.approvedRoster })
    else none
  | .shippingAddressCorrection event =>
    if isEventBase dateParses event.toEventBase && isIdentifier event.correctionId &&
        isInteger 1 event.correctionVersion && isIdentifier event.shippedAddressId &&
        isInteger 1 event.shippedAddressVersion && isShippingAddress event.address &&
        isRosterBinding event.approvedRoster then
      some (.shippingAddressCorrection
        { event with approvedRoster := withoutDevices event.approvedRoster })
    else none
  | .addressAck event =>
    if isEventBase dateParses event.toEventBase && isIdentifier event.addressId &&
        isInteger 1 event.addressVersion then
      some (.addressAck event)
    else none
  | .fulfillmentStatus event =>
    if isEventBase dateParses event.toEventBase && isIdentifier event.addressId &&
        isInteger 1 event.addressVersion then
      some (.fulfillmentStatus event)
    else none
  | .tracking event =>
    if isEventBase dateParses event.toEventBase && isBounded 1 200 event.carrier &&
        isBounded 1 300 event.trackingCode && isIdentifier event.addressId &&
        isInteger 1 event.addressVersion then
      some (.tracking event)
    else none

/-- The text of an encoded event stands as the event; any other text decodes to nothing. -/
inductive Ciphertext where
  | simulated (event : SupportEvent)
  | other (text : String)
deriving DecidableEq

def encodeSimulatedSupportEvent (event : SupportEvent) : Option Ciphertext :=
  (parseSupportEvent dateParses event).map .simulated

def decodeSimulatedSupportEvent : Ciphertext → Option SupportEvent
  | .simulated event => parseSupportEvent dateParses event
  | .other _ => none

end

structure SharedActor where
  participantId : String
  role : AuthenticatedParticipantRole

structure SharedEnvelope where
  cursor : Nat
  clientEnvelopeId : String
  senderParticipantId : String
  senderRole : AuthenticatedParticipantRole
  rosterVersion : Nat
  epoch : Nat
  ciphertext : Ciphertext

structure SubmitEnvelopeInput where
  clientEnvelopeId : String
  rosterVersion : Nat
  epoch : Nat
  ciphertext : Ciphertext

/-- The rows of one room of the store. -/
structure Room where
  rosterVersion : Nat
  epoch : Nat
  memberships : List SharedRosterMember
  envelopes : List SharedEnvelope

structure Page where
  envelopes : List SharedEnvelope
  nextCursor : Nat
  hasMore : Bool

namespace Room

variable (room : Room)

/-- `ORDER BY joined_at ASC, participant_id ASC` -/
def roster : List SharedRosterMember :=
  room.memberships.insertionSort fun first second =>
    first.joinedAt < second.joinedAt ∨
      (first.joinedAt = second.joinedAt ∧ first.participantId ≤ second.participantId)

def getConversation : SharedConversation := ⟨room.rosterVersion, room.epoch, room.roster⟩

def syncEnvelopes (afterCursor limit : Nat) : Page :=
  let rows := (room.envelopes.filter fun envelope => afterCursor < envelope.cursor).take (limit + 1)
  let envelopes := rows.take limit
  ⟨envelopes, (envelopes.getLast?.map SharedEnvelope.cursor).getD afterCursor,
    decide (limit < rows.length)⟩

def findEnvelope (clientEnvelopeId : String) : Option SharedEnvelope :=
  room.envelopes.find? fun envelope => envelope.clientEnvelopeId = clientEnvelopeId

def isFixedRoster : Bool :=
  room.memberships.length = 2 &&
    room.memberships.countP (fun member => member.role = .customer) = 1 &&
    room.memberships.countP (fun member => member.role = .projectStaff) = 1

def isMember (session : SharedActor) : Bool :=
  room.memberships.any fun member =>
    member.participantId = session.participantId && member.role = session.role

def envelopeMatches (existing : SharedEnvelope) (session : SharedActor)
    (input : SubmitEnvelopeInput) : Bool :=
  existing.senderParticipantId = session.participantId && existing.senderRole = session.role &&
    existing.rosterVersion = input.rosterVersion && existing.epoch = input.epoch &&
    existing.ciphertext = input.ciphertext

def stored (session : SharedActor) (input : SubmitEnvelopeInput) : SharedEnvelope := {
  cursor := room.envelopes.length + 1
  clientEnvelopeId := input.clientEnvelopeId
  senderParticipantId := session.participantId
  senderRole := session.role
  rosterVersion := input.rosterVersion
  epoch := input.epoch
  ciphertext := input.ciphertext }

/-- The quota of the room is left out; whether the envelope was there already is returned. -/
def submitEnvelope (session : SharedActor) (input : SubmitEnvelopeInput) :
    Except String (Bool × Room) :=
  if !room.isMember session then .error "conversation_not_found"
  else if !room.isFixedRoster then .error "roster_incomplete"
  else if room.rosterVersion ≠ input.rosterVersion ∨ room.epoch ≠ input.epoch then
    .error "roster_changed"
  else
    match room.findEnvelope input.clientEnvelopeId with
    | some existing =>
      if envelopeMatches existing session input then .ok (true, room)
      else .error "idempotency_conflict"
    | none => .ok (false, { room with
        envelopes := room.envelopes ++ [room.stored session input] })

def exchangeInvitation (member : SharedRosterMember) : Option Room :=
  if room.memberships.any fun other => other.role = member.role then none
  else some { room with
    rosterVersion := room.rosterVersion + 1
    epoch := room.epoch + 1
    memberships := room.memberships ++ [member] }

end Room

section

variable (dateParses : String → Bool)

def sensitiveRosterEvidenceMatchesEnvelope (approvedRoster : RecipientRosterBinding)
    (envelope : SharedEnvelope) (availableRoster : Option SharedConversation) : Bool :=
  if approvedRoster.rosterVersion != rosterVersionText envelope.rosterVersion ||
      approvedRoster.mlsEpoch != .integer envelope.epoch then
    false
  else
    match availableRoster with
    | none => true
    | some availableRoster =>
      if availableRoster.rosterVersion = envelope.rosterVersion ∧
          availableRoster.epoch = envelope.epoch then
        rosterBindingsEqual approvedRoster (sharedRosterFromConversation availableRoster)
      else true

def approvedRosterOf : SupportEvent → Option RecipientRosterBinding
  | .shippingAddress event => some event.approvedRoster
  | .shippingAddressCorrection event => some event.approvedRoster
  | _ => none

def authenticatedBy (envelope : SharedEnvelope) : AuthenticatedEventMetadata := {
  participantId := envelope.senderParticipantId
  deviceId := deviceIdFor envelope.senderParticipantId
  deviceFingerprint := fingerprintFor envelope.senderParticipantId
  roleCredential := {
    credentialId := "dev_http_role_" ++ envelope.senderParticipantId
    role := envelope.senderRole
    subjectParticipantId := envelope.senderParticipantId
    subjectDeviceId := deviceIdFor envelope.senderParticipantId } }

def openSimulatedEnvelope (envelope : SharedEnvelope)
    (availableRoster : Option SharedConversation) : Option AuthenticatedSupportEvent :=
  match decodeSimulatedSupportEvent dateParses envelope.ciphertext with
  | none => none
  | some event =>
    if (approvedRosterOf event).any fun approvedRoster =>
        !sensitiveRosterEvidenceMatchesEnvelope approvedRoster envelope availableRoster then
      none
    else some ⟨event, authenticatedBy envelope⟩

/-- The stored envelopes as they are opened with the roster of the room. -/
def Room.transcript (room : Room) : List AuthenticatedSupportEvent :=
  room.envelopes.filterMap fun envelope =>
    openSimulatedEnvelope dateParses envelope (some room.getConversation)

end

section

variable {dateParses : String → Bool} {parsed : SupportEvent}

theorem ne_empty_of_isIdentifier {text : String} (h : isIdentifier text = true) :
    text.isEmpty = false := by
  cases hempty : text.isEmpty with
  | false => rfl
  | true =>
    obtain rfl := String.isEmpty_iff.mp hempty
    exact absurd h (by decide)

theorem isSafeInteger_of_isInteger {minimum : Int} {number : Number}
    (h : isInteger minimum number = true) : number.isSafeInteger = true := by
  cases number with
  | integer value => exact (Bool.and_eq_true_iff.mp h).1
  | other text => cases h

theorem parse_shippingAddress {event : ShippingAddressEvent}
    (h : parseSupportEvent dateParses (.shippingAddress event) = some parsed) :
    event.addressId.isEmpty = false ∧ event.version.isSafeInteger = true ∧
      parsed = .shippingAddress
        { event with approvedRoster := withoutDevices event.approvedRoster } := by
  unfold parseSupportEvent at h
  dsimp only at h
  split_ifs at h with hchecks
  simp only [Bool.and_eq_true] at hchecks
  obtain ⟨⟨⟨⟨-, hid⟩, hversion⟩, -⟩, -⟩ := hchecks
  exact ⟨ne_empty_of_isIdentifier hid, isSafeInteger_of_isInteger hversion,
    (Option.some.inj h).symm⟩

theorem parse_shippingAddressCorrection {event : ShippingAddressCorrectionEvent}
    (h : parseSupportEvent dateParses (.shippingAddressCorrection event) = some parsed) :
    event.correctionId.isEmpty = false ∧ event.correctionVersion.isSafeInteger = true ∧
      parsed = .shippingAddressCorrection
        { event with approvedRoster := withoutDevices event.approvedRoster } := by
  unfold parseSupportEvent at h
  dsimp only at h
  split_ifs at h with hchecks
  simp only [Bool.and_eq_true] at hchecks
  obtain ⟨⟨⟨⟨⟨⟨-, hid⟩, hversion⟩, -⟩, -⟩, -⟩, -⟩ := hchecks
  exact ⟨ne_empty_of_isIdentifier hid, isSafeInteger_of_isInteger hversion,
    (Option.some.inj h).symm⟩

end

section

variable {roster binding : RecipientRosterBinding}

theorem sameFingerprintSet_self (fingerprints : List String) :
    sameFingerprintSet fingerprints fingerprints = true := by
  unfold sameFingerprintSet
  rw [bne_self_eq_false, if_neg Bool.false_ne_true]
  exact beq_self_eq_true _

theorem sameFingerprintSet_eq_isPerm :
    sameFingerprintSet = fun left right => left.isPerm right := by
  have hsorted (texts : List String) :
      (texts.mergeSort fun a b => decide (a ≤ b)).Pairwise (· ≤ ·) := by
    have hpairs := List.pairwise_mergeSort
      (fun a b c (h : decide (a ≤ b) = true) (h' : decide (b ≤ c) = true) =>
        decide_eq_true (le_trans (of_decide_eq_true h) (of_decide_eq_true h')))
      (fun a b => by simpa using le_total a b) texts
    exact hpairs.imp fun h => of_decide_eq_true h
  have hperm (left right : List String) :
      left.mergeSort (fun a b => decide (a ≤ b)) = right.mergeSort (fun a b => decide (a ≤ b)) ↔
        left.Perm right := by
    have hleft := List.mergeSort_perm left fun a b => decide (a ≤ b)
    have hright := List.mergeSort_perm right fun a b => decide (a ≤ b)
    refine ⟨fun h => hleft.symm.trans (h ▸ hright), fun h => ?_⟩
    exact List.Perm.eq_of_pairwise (fun a b _ _ h h' => le_antisymm h h') (hsorted left)
      (hsorted right) ((hleft.trans h).trans hright.symm)
  funext left right
  rw [Bool.eq_iff_iff, List.isPerm_iff, ← hperm]
  unfold sameFingerprintSet
  split_ifs with hlength
  · refine ⟨nofun, fun h => ?_⟩
    rw [((hperm left right).mp h).length_eq, bne_self_eq_false] at hlength
    cases hlength
  · exact beq_iff_eq

theorem rosterBindingFromSnapshot_some (h : rosterBindingFromSnapshot roster = some binding) :
    isValidRosterSnapshot roster = true ∧ binding = withoutDevices roster := by
  unfold rosterBindingFromSnapshot at h
  split_ifs at h with hvalid
  exact ⟨hvalid, (Option.some.inj h).symm⟩

theorem validFields_of_snapshot (valid : isValidRosterSnapshot roster = true) :
    hasValidRosterBindingFields roster = true ∧ ∃ devices, roster.devices = .listed devices := by
  unfold isValidRosterSnapshot at valid
  split at valid
  · cases valid
  · cases valid
  · next devices hdevices =>
      split_ifs at valid with hfields
      exact ⟨by simpa using hfields, devices, hdevices⟩

theorem isValidRosterBinding_withoutDevices (valid : isValidRosterSnapshot roster = true) :
    isValidRosterBinding (withoutDevices roster) = true := by
  have hfields : hasValidRosterBindingFields (withoutDevices roster) = true :=
    (validFields_of_snapshot valid).1
  unfold isValidRosterBinding
  rw [hfields]
  rfl

theorem rosterBindingsEqual_withoutDevices (valid : isValidRosterSnapshot roster = true) :
    rosterBindingsEqual (withoutDevices roster) roster = true := by
  obtain ⟨hfields, devices, hdevices⟩ := validFields_of_snapshot valid
  have hroster : isValidRosterBinding roster = true := by
    unfold isValidRosterBinding
    rw [hfields, hdevices]
    exact valid
  unfold rosterBindingsEqual
  rw [isValidRosterBinding_withoutDevices valid, hroster]
  unfold withoutDevices
  simp only [Bool.not_true, bne_self_eq_false, Bool.or_self, Bool.false_eq_true, ↓reduceIte]
  exact sameFingerprintSet_self _

end

section

variable {entries : List AuthenticatedSupportEvent} {entry : AuthenticatedSupportEvent}

/-- The variables of the reducer after the transcript. -/
def reduced (entries : List AuthenticatedSupportEvent) : FulfillmentState :=
  FulfillmentState.initial.run (authorizedSupportEvents entries)

theorem reduced_append {eventId : String} (hid : countedEventId entry = some eventId)
    (fresh : eventId ∉ entries.filterMap countedEventId) :
    reduced (entries ++ [entry]) = (reduced entries).step entry.event := by
  have happend : authorizedSupportEvents (entries ++ [entry]) =
      authorizedSupportEvents entries ++ [entry] := by
    unfold authorizedSupportEvents
    rw [FirstOccurrence.firstOccurrences_append, List.append_nil,
      FirstOccurrence.firstOccurrences_cons_of_fresh hid fresh]
    rfl
  unfold reduced
  rw [happend]
  exact List.foldl_append

theorem deriveFulfillment_eq (entries : List AuthenticatedSupportEvent) :
    deriveFulfillment entries = (reduced entries).view := rfl

theorem reduced_grounded (entries : List AuthenticatedSupportEvent) :
    FulfillmentSafety.Grounded (reduced entries) := .run .initial _

theorem view_addressCorrectionEvent {state : FulfillmentState}
    (grounded : FulfillmentSafety.Grounded state) :
    state.view.addressCorrectionEvent = state.addressCorrectionEvent := by
  cases hcorrection : state.addressCorrectionEvent with
  | none =>
    unfold FulfillmentState.view
    split
    · rfl
    · split
      · exact hcorrection
      · rfl
      · rfl
  | some correction =>
    obtain ⟨hstatus, hnames, -⟩ := grounded.correction correction hcorrection
    obtain ⟨address, haddress, -, -⟩ := FulfillmentSafety.namesAddress_eq_true.mp hnames
    unfold FulfillmentState.view
    rw [haddress]
    dsimp only
    rw [hstatus]
    exact hcorrection

theorem view_stage_shipped {state : FulfillmentState} :
    state.view.stage = .shipped ↔
      state.addressEvent.isSome = true ∧ state.status = some .shipped := by
  unfold FulfillmentState.view
  split
  · next haddress =>
      rw [haddress]
      exact ⟨nofun, nofun⟩
  · next address haddress =>
      rw [haddress]
      split
      · next hstatus =>
          rw [hstatus]
          exact ⟨fun _ => ⟨rfl, rfl⟩, fun _ => rfl⟩
      · next hstatus =>
          rw [hstatus]
          exact ⟨nofun, nofun⟩
      · next hstatus =>
          rw [hstatus]
          exact ⟨nofun, nofun⟩

end

section

variable {dateParses : String → Bool} {room stored : Room} {session : SharedActor}
  {input : SubmitEnvelopeInput} {duplicate : Bool}

theorem submitEnvelope_ok (h : room.submitEnvelope session input = .ok (duplicate, stored)) :
    room.isMember session = true ∧ room.isFixedRoster = true ∧
      room.rosterVersion = input.rosterVersion ∧ room.epoch = input.epoch ∧
      ((duplicate = true ∧ (room.findEnvelope input.clientEnvelopeId).isSome = true ∧
          stored = room) ∨
        (duplicate = false ∧ (room.findEnvelope input.clientEnvelopeId).isSome = false ∧
          stored = { room with envelopes := room.envelopes ++ [room.stored session input] })) := by
  unfold Room.submitEnvelope at h
  split_ifs at h with hmember hfixed hversion
  push Not at hversion
  refine ⟨by simpa using hmember, by simpa using hfixed, hversion.1, hversion.2, ?_⟩
  split at h
  · next existing hfound =>
      split_ifs at h
      cases h
      exact .inl ⟨rfl, by rw [hfound, Option.isSome_some], rfl⟩
  · next hnone =>
      cases h
      exact .inr ⟨rfl, by rw [hnone, Option.isSome_none], rfl⟩

theorem transcript_append (room : Room) (envelope : SharedEnvelope) :
    Room.transcript dateParses { room with envelopes := room.envelopes ++ [envelope] } =
      room.transcript dateParses ++
        (openSimulatedEnvelope dateParses envelope (some room.getConversation)).toList := by
  unfold Room.transcript
  rw [List.filterMap_append]
  rfl

end

end JbChat.Domain.SharedRoom
