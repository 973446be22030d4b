/- source: src/domain/model.ts, fulfillment.ts
   digest: Support events, who may emit them, and the reducer behind the fulfilment view. -/

import JbChat.Foundation.FirstOccurrence
import Mathlib.Data.String.Basic

set_option autoImplicit false

namespace JbChat.Domain.Fulfillment

open Foundation.FirstOccurrence

/-- A number of the event payloads. Fractions, infinities and not-a-number are told apart by
their text only: none of them is a safe integer. -/
inductive Number where
  | integer (value : Int)
  | other (text : String)
  deriving DecidableEq

def maxSafeInteger : Int := 2 ^ 53 - 1

namespace Number

def isSafeInteger : Number → Bool
  | integer value => decide (-maxSafeInteger ≤ value ∧ value ≤ maxSafeInteger)
  | other _ => false

/-- The sum with one, which is exact for every safe integer. -/
def succ : Number → Number
  | integer value => integer (value + 1)
  | other text => other text

def isNonNegative : Number → Bool
  | integer value => decide (0 ≤ value)
  | other _ => false

end Number

structure ShippingAddress where
  recipientName : String
  line1 : String
  line2 : String
  city : String
  region : String
  postalCode : String
  country : String
  deliveryNote : String
  deriving DecidableEq

inductive AuthenticatedParticipantRole where
  | customer
  | projectStaff
  deriving DecidableEq

structure RecipientDeviceMetadata where
  participantId : String
  deviceId : String
  deviceFingerprint : String
  displayName : String
  /-- `none` is any text that names no role. -/
  role : Option AuthenticatedParticipantRole
  deriving DecidableEq

/-- The `devices` of a binding: a bare binding has none, a snapshot lists them. -/
inductive RosterDevices where
  | missing
  | notAnArray
  | listed (devices : List RecipientDeviceMetadata)
  deriving DecidableEq

structure RecipientRosterBinding where
  rosterVersion : String
  mlsEpoch : Number
  recipientDeviceFingerprints : List String
  devices : RosterDevices
  deriving DecidableEq

structure EventBase where
  id : String
  createdAt : String
  deriving DecidableEq

structure TextEvent extends EventBase where
  body : String
  deriving DecidableEq

structure AddressRequestEvent extends EventBase where
  reason : String
  deriving DecidableEq

structure ShippingAddressEvent extends EventBase where
  addressId : String
  version : Number
  address : ShippingAddress
  approvedRoster : RecipientRosterBinding
  deriving DecidableEq

structure ShippingAddressCorrectionEvent extends EventBase where
  correctionId : String
  correctionVersion : Number
  shippedAddressId : String
  shippedAddressVersion : Number
  address : ShippingAddress
  approvedRoster : RecipientRosterBinding
  deriving DecidableEq

structure AddressAcknowledgedEvent extends EventBase where
  addressId : String
  addressVersion : Number
  deriving DecidableEq

inductive FulfillmentStatus where
  | preparing
  | shipped
  deriving DecidableEq

structure FulfillmentStatusEvent extends EventBase where
  status : FulfillmentStatus
  addressId : String
  addressVersion : Number
  deriving DecidableEq

structure TrackingEvent extends EventBase where
  carrier : String
  trackingCode : String
  addressId : String
  addressVersion : Number
  deriving DecidableEq

inductive SupportEvent where
  | text (event : TextEvent)
  | addressRequest (event : AddressRequestEvent)
  | shippingAddress (event : ShippingAddressEvent)
  | shippingAddressCorrection (event : ShippingAddressCorrectionEvent)
  | addressAck (event : AddressAcknowledgedEvent)
  | fulfillmentStatus (event : FulfillmentStatusEvent)
  | tracking (event : TrackingEvent)
  deriving DecidableEq

def SupportEvent.id : SupportEvent → String
  | text event => event.id
  | addressRequest event => event.id
  | shippingAddress event => event.id
  | shippingAddressCorrection event => event.id
  | addressAck event => event.id
  | fulfillmentStatus event => event.id
  | tracking event => event.id

structure RoleCredential where
  credentialId : String
  role : AuthenticatedParticipantRole
  subjectParticipantId : String
  subjectDeviceId : String
  deriving DecidableEq

structure AuthenticatedEventMetadata where
  participantId : String
  deviceId : String
  deviceFingerprint : String
  roleCredential : RoleCredential
  deriving DecidableEq

structure AuthenticatedSupportEvent where
  event : SupportEvent
  authenticated : AuthenticatedEventMetadata
  deriving DecidableEq

inductive FulfillmentStage where
  | addressNeeded
  | readyToFulfill
  | preparing
  | shipped
  deriving DecidableEq

structure FulfillmentView where
  stage : FulfillmentStage
  addressEvent : Option ShippingAddressEvent
  acknowledged : Bool
  statusEvent : Option FulfillmentStatusEvent
  trackingEvent : Option TrackingEvent
  addressCorrectionEvent : Option ShippingAddressCorrectionEvent
  deriving DecidableEq

def canRoleEmitEvent (role : AuthenticatedParticipantRole) : SupportEvent → Bool
  | .text _ => role = .customer || role = .projectStaff
  | .shippingAddress _ | .shippingAddressCorrection _ => role = .customer
  | .addressRequest _ | .addressAck _ | .fulfillmentStatus _ | .tracking _ =>
    role = .projectStaff

def isAuthorizedSupportEvent (entry : AuthenticatedSupportEvent) : Bool :=
  let authenticated := entry.authenticated
  let roleCredential := authenticated.roleCredential
  if authenticated.participantId.isEmpty || authenticated.deviceId.isEmpty ||
      authenticated.deviceFingerprint.isEmpty || roleCredential.credentialId.isEmpty ||
      roleCredential.subjectParticipantId != authenticated.participantId ||
      roleCredential.subjectDeviceId != authenticated.deviceId then
    false
  else
    canRoleEmitEvent roleCredential.role entry.event

/-- White space and line terminators as `String.prototype.trim` removes them. -/
def isTrimmed (c : Char) : Bool :=
  let code := c.toNat
  (0x09 ≤ code && code ≤ 0x0D) || code = 0x20 || code = 0xA0 || code = 0x1680 ||
    (0x2000 ≤ code && code ≤ 0x200A) || code = 0x2028 || code = 0x2029 || code = 0x202F ||
    code = 0x205F || code = 0x3000 || code = 0xFEFF

def trim (text : String) : String :=
  String.ofList ((text.toList.dropWhile isTrimmed).reverse.dropWhile isTrimmed).reverse

def countedEventId (entry : AuthenticatedSupportEvent) : Option String :=
  let eventId := trim entry.event.id
  if eventId.isEmpty || !isAuthorizedSupportEvent entry then none else some eventId

/-- The first authorized occurrence in transcript order wins. -/
def authorizedSupportEvents (events : List AuthenticatedSupportEvent) :
    List AuthenticatedSupportEvent :=
  firstOccurrences countedEventId [] events

def hasValidRosterBindingFields (binding : RecipientRosterBinding) : Bool :=
  !binding.rosterVersion.isEmpty && binding.mlsEpoch.isSafeInteger &&
    binding.mlsEpoch.isNonNegative && decide (0 < binding.recipientDeviceFingerprints.length) &&
    binding.recipientDeviceFingerprints.all (fun fingerprint => !fingerprint.isEmpty) &&
    decide binding.recipientDeviceFingerprints.Nodup

def sameFingerprintSet (left right : List String) : Bool :=
  if left.length != right.length then false
  else left.mergeSort (fun a b => decide (a ≤ b)) == right.mergeSort (fun a b => decide (a ≤ b))

def isValidRosterSnapshot (roster : RecipientRosterBinding) : Bool :=
  match roster.devices with
  | .missing | .notAnArray => false
  | .listed devices =>
    let deviceIds : List String := devices.map (·.deviceId)
    let deviceFingerprints : List String := devices.map (·.deviceFingerprint)
    if !hasValidRosterBindingFields roster then false
    else if devices.length = 0 ||
        devices.any (fun device => device.participantId.isEmpty || device.deviceId.isEmpty ||
          device.deviceFingerprint.isEmpty || device.displayName.isEmpty ||
          device.role.isNone) ||
        !decide deviceIds.Nodup || !decide deviceFingerprints.Nodup then
      false
    else sameFingerprintSet deviceFingerprints roster.recipientDeviceFingerprints

def isValidRosterBinding (binding : RecipientRosterBinding) : Bool :=
  if !hasValidRosterBindingFields binding then false
  else
    match binding.devices with
    | .missing => true
    | _ => isValidRosterSnapshot binding

/-- The variables of the reducer's loop. -/
structure FulfillmentState where
  addressEvent : Option ShippingAddressEvent
  acknowledged : Bool
  statusEvent : Option FulfillmentStatusEvent
  trackingEvent : Option TrackingEvent
  addressCorrectionEvent : Option ShippingAddressCorrectionEvent

namespace FulfillmentState

def initial : FulfillmentState where
  addressEvent := none
  acknowledged := false
  statusEvent := none
  trackingEvent := none
  addressCorrectionEvent := none

variable (state : FulfillmentState)

def status : Option FulfillmentStatus := state.statusEvent.map (·.status)

def namesAddress (addressId : String) (addressVersion : Number) : Bool :=
  match state.addressEvent with
  | none => false
  | some address => addressId = address.addressId && addressVersion = address.version

def acceptsAddress (event : ShippingAddressEvent) : Bool :=
  let expectedVersion :=
    match state.addressEvent with
    | some address => address.version.succ
    | none => .integer 1
  if state.status = some .shipped || !isValidRosterBinding event.approvedRoster ||
      !event.version.isSafeInteger || event.addressId.isEmpty ||
      event.version != expectedVersion then
    false
  else
    match state.addressEvent with
    | some address => event.addressId = address.addressId
    | none => true

def takeAddress (event : ShippingAddressEvent) : FulfillmentState :=
  if state.acceptsAddress event then
    { state with
      addressEvent := some event
      acknowledged := false
      statusEvent := none
      trackingEvent := none }
  else state

def takeAck (event : AddressAcknowledgedEvent) : FulfillmentState :=
  if state.status != some .shipped && state.namesAddress event.addressId event.addressVersion then
    { state with acknowledged := true }
  else state

def takeStatus (event : FulfillmentStatusEvent) : FulfillmentState :=
  if !state.acknowledged || !state.namesAddress event.addressId event.addressVersion ||
      state.status = some .shipped then
    state
  else
    match event.status with
    | .preparing =>
      if state.statusEvent.isNone then { state with statusEvent := some event } else state
    | .shipped =>
      if state.status = some .preparing then { state with statusEvent := some event } else state

def takeTracking (event : TrackingEvent) : FulfillmentState :=
  if (state.status = some .preparing || state.status = some .shipped) &&
      state.namesAddress event.addressId event.addressVersion then
    { state with trackingEvent := some event }
  else state

def acceptsCorrection (event : ShippingAddressCorrectionEvent) : Bool :=
  let expectedCorrectionVersion :=
    match state.addressCorrectionEvent with
    | some correction => correction.correctionVersion.succ
    | none => .integer 1
  if state.status != some .shipped || !isValidRosterBinding event.approvedRoster ||
      !state.namesAddress event.shippedAddressId event.shippedAddressVersion ||
      !event.correctionVersion.isSafeInteger || event.correctionId.isEmpty ||
      event.correctionVersion != expectedCorrectionVersion then
    false
  else
    match state.addressCorrectionEvent with
    | some correction => event.correctionId = correction.correctionId
    | none => true

def takeCorrection (event : ShippingAddressCorrectionEvent) : FulfillmentState :=
  if state.acceptsCorrection event then { state with addressCorrectionEvent := some event }
  else state

/-- One turn of the loop. -/
def step : SupportEvent → FulfillmentState
  | .shippingAddress event => state.takeAddress event
  | .addressAck event => state.takeAck event
  | .fulfillmentStatus event => state.takeStatus event
  | .tracking event => state.takeTracking event
  | .shippingAddressCorrection event => state.takeCorrection event
  | .text _ | .addressRequest _ => state

def run (entries : List AuthenticatedSupportEvent) : FulfillmentState :=
  entries.foldl (fun state entry => state.step entry.event) state

def view : FulfillmentView :=
  match state.addressEvent with
  | none =>
    { stage := .addressNeeded
      addressEvent := none
      acknowledged := false
      statusEvent := none
      trackingEvent := none
      addressCorrectionEvent := none }
  | some address =>
    match state.status with
    | some .shipped =>
      { stage := .shipped
        addressEvent := some address
        acknowledged := state.acknowledged
        statusEvent := state.statusEvent
        trackingEvent := state.trackingEvent
        addressCorrectionEvent := state.addressCorrectionEvent }
    | some .preparing =>
      { stage := .preparing
        addressEvent := some address
        acknowledged := state.acknowledged
        statusEvent := state.statusEvent
        trackingEvent := state.trackingEvent
        addressCorrectionEvent := none }
    | none =>
      { stage := .readyToFulfill
        addressEvent := some address
        acknowledged := state.acknowledged
        statusEvent := none
        trackingEvent := none
        addressCorrectionEvent := none }

/-- The address events that were accepted along a run, in order. -/
def acceptedAddresses : FulfillmentState → List AuthenticatedSupportEvent →
    List ShippingAddressEvent
  | _, [] => []
  | state, entry :: entries =>
    match entry.event with
    | .shippingAddress event =>
      (if state.acceptsAddress event then [event] else []) ++
        acceptedAddresses (state.step entry.event) entries
    | _ => acceptedAddresses (state.step entry.event) entries

end FulfillmentState

/-- Reduces only authenticated, role-authorized events; `shipped` is terminal. -/
def deriveFulfillment (entries : List AuthenticatedSupportEvent) : FulfillmentView :=
  (FulfillmentState.initial.run (authorizedSupportEvents entries)).view

/-- The address events `deriveFulfillment` accepts while it reduces the transcript. -/
def acceptedAddressEvents (entries : List AuthenticatedSupportEvent) :
    List ShippingAddressEvent :=
  FulfillmentState.initial.acceptedAddresses (authorizedSupportEvents entries)

end JbChat.Domain.Fulfillment
