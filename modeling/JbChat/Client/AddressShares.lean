/- source: src/shared/SharedSupportClient.ts
   digest: The addresses that the client of a customer shares, whatever becomes of its requests. -/

import JbChat.Domain.SharedRoom
import JbChat.Foundation.GuardedRun

/-!
The client polls while a call awaits, and both share the sync in flight. The room answers a request
at one time and the response arrives at another, unless it is lost.
-/

set_option autoImplicit false

namespace JbChat.Client.AddressShares

open Domain Domain.Fulfillment Domain.SharedRoom Foundation.GuardedRun

structure SupportSnapshot where
  roster : RecipientRosterBinding
  events : List AuthenticatedSupportEvent
deriving DecidableEq

structure AttemptKey where
  address : ShippingAddress
  frozenApproval : RecipientRosterBinding
deriving DecidableEq

/-- A sync awaits the conversation, or a page; `answer`: what the room has answered. -/
inductive Sync where
  | conversation (answer : Option SharedConversation)
  | page (snapshotChanged : Bool) (pageCount : Nat) (answer : Option Page)

structure SupportClient where
  actor : SharedActor
  conversation : SharedConversation
  snapshot : SupportSnapshot
  events : List AuthenticatedSupportEvent
  cursor : Nat
  attempts : List (AttemptKey × SupportEvent)
  syncInFlight : Option Sync

def maxSharedSyncPages : Nat := 100

def buildSnapshot (conversation : SharedConversation) (events : List AuthenticatedSupportEvent) :
    SupportSnapshot :=
  ⟨sharedRosterFromConversation conversation, events⟩

namespace SupportClient

variable (dateParses : String → Bool) (client : SupportClient)

def construct (actor : SharedActor) (conversation : SharedConversation) : SupportClient :=
  ⟨actor, conversation, buildSnapshot conversation [], [], 0, [], none⟩

/-- Joins the sync in flight, or begins one. -/
def syncNow : SupportClient :=
  if client.syncInFlight.isSome then client
  else { client with syncInFlight := some (.conversation none) }

def receiveConversation (conversation : SharedConversation) : SupportClient :=
  { client with
    conversation := conversation
    syncInFlight := some (.page (decide (client.conversation ≠ conversation)) 1 none) }

/-- A page is opened; the sync goes on, fails, or ends with a new snapshot if there is a change. -/
def receivePage (snapshotChanged : Bool) (pageCount : Nat) (page : Page) :
    SupportClient × Option Bool :=
  let opened := page.envelopes.filterMap fun envelope =>
    openSimulatedEnvelope dateParses envelope (some client.conversation)
  let changed := snapshotChanged || !opened.isEmpty
  let read := { client with
    events := client.events ++ opened
    cursor := page.nextCursor }
  if page.hasMore then
    if maxSharedSyncPages ≤ pageCount then ({ read with syncInFlight := none }, some false)
    else ({ read with syncInFlight := some (.page changed (pageCount + 1) none) }, none)
  else
    ({ read with
      snapshot := if changed then buildSnapshot read.conversation read.events else read.snapshot
      syncInFlight := none }, some true)

/-- The response of the sync in flight arrives, or it fails; whether the sync has ended. -/
def receiveSync (delivered : Bool) : Option (SupportClient × Option Bool) :=
  match client.syncInFlight with
  | none => none
  | some sync =>
    if !delivered then some ({ client with syncInFlight := none }, some false)
    else
      match sync with
      | .conversation (some conversation) =>
        some (client.receiveConversation conversation, none)
      | .page snapshotChanged pageCount (some page) =>
        some (client.receivePage dateParses snapshotChanged pageCount page)
      | _ => none

def serveSync (room : Room) : Option SupportClient :=
  match client.syncInFlight with
  | some (.conversation none) =>
    some { client with syncInFlight := some (.conversation (some room.getConversation)) }
  | some (.page snapshotChanged pageCount none) =>
    some { client with
      syncInFlight := some (.page snapshotChanged pageCount
        (some (room.syncEnvelopes client.cursor 100))) }
  | _ => none

end SupportClient

/-- What `shareAddress` hands to `submitAttempt`. -/
structure Submission where
  key : AttemptKey
  fulfillment : FulfillmentView
  rosterVersion : Nat
  epoch : Nat

/-- Where a call awaits; `ended`: how the sync that it awaits has ended. -/
inductive Phase where
  | opening (ended : Option Bool)
  | submitting (submission : Submission) (ended : Option Bool)
  | posting (submission : Submission) (input : SubmitEnvelopeInput)
      (answer : Option (Except String Bool))
  | closing (submission : Submission) (ended : Option Bool)
  | refused (ended : Option Bool)

/-- `disturbed`: another participant has stored an event since the call began. -/
structure Call where
  address : ShippingAddress
  approvedRoster : RecipientRosterBinding
  phase : Phase
  disturbed : Bool

/-- The random parts of new IDs, and the time. -/
structure Drawn where
  eventSuffix : String
  subjectSuffix : String
  now : String

def buildCorrection (address : ShippingAddress) (frozenApproval : RecipientRosterBinding)
    (shipped : ShippingAddressEvent) (previous : Option ShippingAddressCorrectionEvent)
    (drawn : Drawn) : SupportEvent :=
  .shippingAddressCorrection {
    id := "address_correction_event_" ++ drawn.eventSuffix
    createdAt := drawn.now
    correctionId := (previous.map ShippingAddressCorrectionEvent.correctionId).getD
      ("address_correction_" ++ drawn.subjectSuffix)
    correctionVersion := (previous.map fun previous =>
      previous.correctionVersion.succ).getD (.integer 1)
    shippedAddressId := shipped.addressId
    shippedAddressVersion := shipped.version
    address := address
    approvedRoster := frozenApproval }

def buildAddress (address : ShippingAddress) (frozenApproval : RecipientRosterBinding)
    (previous : Option ShippingAddressEvent) (drawn : Drawn) : SupportEvent :=
  .shippingAddress {
    id := "shipping_address_" ++ drawn.eventSuffix
    createdAt := drawn.now
    addressId := (previous.map ShippingAddressEvent.addressId).getD
      ("address_" ++ drawn.subjectSuffix)
    version := (previous.map fun previous => previous.version.succ).getD (.integer 1)
    address := address
    approvedRoster := frozenApproval }

/-- The event of a new attempt. -/
def buildEvent (submission : Submission) (drawn : Drawn) : SupportEvent :=
  let fulfillment := submission.fulfillment
  match fulfillment.stage, fulfillment.addressEvent with
  | .shipped, some addressEvent => buildCorrection submission.key.address
      submission.key.frozenApproval addressEvent fulfillment.addressCorrectionEvent drawn
  | _, previous => buildAddress submission.key.address submission.key.frozenApproval previous drawn

def clientEnvelopeId (event : SupportEvent) : String := "envelope_" ++ event.id

section

variable (dateParses : String → Bool)

structure World where
  room : Room
  client : SupportClient
  call : Option Call

def World.start (memberships : List SharedRosterMember) (suffix : String) : World :=
  let room : Room := ⟨memberships.length, memberships.length, memberships, []⟩
  ⟨room, .construct ⟨"customer_" ++ suffix, .customer⟩ room.getConversation, none⟩

/-- The client polls, and the customer shares an address; the room answers, and a response arrives
or is lost; a call goes on; and the other participant joins, or stores an envelope. -/
inductive Event where
  | poll
  | shareAddress (address : ShippingAddress) (approvedRoster : RecipientRosterBinding)
  | serveSync
  | receiveSync (delivered : Bool)
  | servePost (refusal : Option String)
  | receivePost (delivered : Bool)
  | resume (drawn : Drawn)
  | exchangeInvitation (member : SharedRosterMember)
  | submitEnvelope (session : SharedActor) (input : SubmitEnvelopeInput)

/-- How the awaited sync has ended. -/
def Phase.endSync (ok : Bool) : Phase → Phase
  | .opening none => .opening (some ok)
  | .submitting submission none => .submitting submission (some ok)
  | .closing submission none => .closing submission (some ok)
  | .refused none => .refused (some ok)
  | phase => phase

def Call.endSync (call : Call) (ended : Option Bool) : Call :=
  match ended with
  | none => call
  | some ok => { call with phase := call.phase.endSync ok }

namespace World

variable (world : World)

def awaitSync (call : Call) (phase : Phase) : World :=
  { world with
    client := world.client.syncNow
    call := some { call with phase := phase } }

/-- `shareAddress` after its first sync. -/
def opened (call : Call) : World :=
  let client := world.client
  if !rosterBindingsEqual call.approvedRoster
      (sharedRosterFromConversation client.conversation) then
    { world with call := none }
  else
    match rosterBindingFromSnapshot client.snapshot.roster with
    | none => { world with call := none }
    | some frozenApproval => world.awaitSync call (.submitting {
        key := ⟨call.address, frozenApproval⟩
        fulfillment := deriveFulfillment client.snapshot.events
        rosterVersion := client.conversation.rosterVersion
        epoch := client.conversation.epoch } none)

def contextMatches (submission : Submission) : Bool :=
  world.client.conversation.rosterVersion = submission.rosterVersion &&
    world.client.conversation.epoch = submission.epoch

/-- The envelope of an event is posted, unless the event cannot be encoded. -/
def post (call : Call) (submission : Submission) (event : SupportEvent) : World :=
  match encodeSimulatedSupportEvent dateParses event with
  | none => { world with call := none }
  | some ciphertext => { world with
      call := some { call with
        phase := .posting submission {
          clientEnvelopeId := clientEnvelopeId event
          rosterVersion := world.client.conversation.rosterVersion
          epoch := world.client.conversation.epoch
          ciphertext := ciphertext } none } }

/-- A drawn ID is not in use. -/
def isNew (event : SupportEvent) : Bool :=
  (world.room.findEnvelope (clientEnvelopeId event)).isNone && !(trim event.id).isEmpty &&
    decide (trim event.id ∉ (world.room.transcript dateParses).filterMap countedEventId)

def forget (key : AttemptKey) : World :=
  { world with
    client := { world.client with
      attempts := world.client.attempts.filter fun attempt => attempt.1 ≠ key } }

/-- `submitAttempt` after its first sync. -/
def submitted (call : Call) (submission : Submission) (drawn : Drawn) : Option World :=
  if !hasBothRoles world.client.conversation then some { world with call := none }
  else if !world.contextMatches submission then
    some { world.forget submission.key with call := none }
  else
    match world.client.attempts.lookup submission.key with
    | some event => some (world.post dateParses call submission event)
    | none =>
      let event := buildEvent submission drawn
      if world.isNew dateParses event then
        some (World.post dateParses
          { world with
            client := { world.client with
              attempts := (submission.key, event) :: world.client.attempts } }
          call submission event)
      else none

def resume (call : Call) (drawn : Drawn) : Option World :=
  match call.phase with
  | .opening (some true) => some (world.opened call)
  | .submitting submission (some true) => world.submitted dateParses call submission drawn
  | .closing submission (some true) => some { world.forget submission.key with call := none }
  | .opening (some false) => some { world with call := none }
  | .submitting _ (some false) => some { world with call := none }
  | .closing _ (some false) => some { world with call := none }
  | .refused (some _) => some { world with call := none }
  | _ => none

/-- The room answers the request of the call. -/
def servePost (call : Call) (refusal : Option String) : Option World :=
  match call.phase with
  | .posting submission input none =>
    let result : Except String (Bool × Room) := match refusal with
      | some code => .error code
      | none => world.room.submitEnvelope world.client.actor input
    some { world with
      room := match result with
        | .ok (_, room) => room
        | .error _ => world.room
      call := some { call with phase := .posting submission input (some (result.map Prod.fst)) } }
  | _ => none

def receivePost (call : Call) (delivered : Bool) : Option World :=
  match call.phase, delivered with
  | .posting _ _ _, false => some { world with call := none }
  | .posting submission _ (some (.ok _)), true =>
    some (world.awaitSync call (.closing submission none))
  | .posting submission _ (some (.error code)), true =>
    if code = "roster_changed" then
      some ((world.forget submission.key).awaitSync call (.refused none))
    else some { world with call := none }
  | _, _ => none

end World

def step : Event → World → Option World
  | .poll, world => some { world with client := world.client.syncNow }
  | .shareAddress address approvedRoster, world =>
    match world.call with
    | some _ => none
    | none =>
      if world.client.actor.role = .customer then
        some (world.awaitSync ⟨address, approvedRoster, .opening none, false⟩ (.opening none))
      else none
  | .serveSync, world =>
    (world.client.serveSync world.room).map fun client => { world with client := client }
  | .receiveSync delivered, world =>
    (world.client.receiveSync dateParses delivered).map fun (client, ended) =>
      { world with
        client := client
        call := world.call.map fun call => call.endSync ended }
  | .servePost refusal, world => world.call.bind fun call => world.servePost call refusal
  | .receivePost delivered, world => world.call.bind fun call => world.receivePost call delivered
  | .resume drawn, world => world.call.bind fun call => world.resume dateParses call drawn
  | .exchangeInvitation member, world =>
    (world.room.exchangeInvitation member).map fun room => { world with room := room }
  | .submitEnvelope session input, world =>
    if session.participantId = world.client.actor.participantId then none
    else
      match world.room.submitEnvelope session input with
      | .error _ => none
      | .ok (duplicate, room) => some { world with
          room := room
          call := world.call.map fun call =>
            { call with disturbed := call.disturbed || !duplicate } }

end

section

variable (dateParses : String → Bool)

/-- The address that the order goes to. -/
def currentAddress (view : FulfillmentView) : Option ShippingAddress :=
  match view.addressCorrectionEvent with
  | some correction => some correction.address
  | none => view.addressEvent.map ShippingAddressEvent.address

def isCurrent (view : FulfillmentView) : SupportEvent → Bool
  | .shippingAddress event =>
    decide (view.addressEvent = some event ∧ view.addressCorrectionEvent = none)
  | .shippingAddressCorrection event => decide (view.addressCorrectionEvent = some event)
  | _ => false

/-- The reducer takes the event. -/
def accepts (state : FulfillmentState) : SupportEvent → Bool
  | .shippingAddress event => state.acceptsAddress event
  | .shippingAddressCorrection event => state.acceptsCorrection event
  | _ => false

/-- No event of its ID counts yet, and the reducer takes the event. -/
def isNext (entries : List AuthenticatedSupportEvent) (event : SupportEvent) : Bool :=
  !(trim event.id).isEmpty && decide (trim event.id ∉ entries.filterMap countedEventId) &&
    accepts (reduced entries) event

/-- The event is stored and still current, or not stored and the next to take. -/
def fits (room : Room) (event : SupportEvent) : Bool :=
  if (room.findEnvelope (clientEnvelopeId event)).isSome then
    isCurrent (deriveFulfillment (room.transcript dateParses)) event
  else isNext (room.transcript dateParses) event

/-- What a call derives from its snapshot is what the stored transcript gives, with the roster of
the conversation; an attempt that is remembered for its key still fits. -/
def allows (event : Event) (world : World) : Bool :=
  match event, world.call with
  | .resume _, some call =>
    match call.phase with
    | .opening (some true) =>
      !rosterBindingsEqual call.approvedRoster
          (sharedRosterFromConversation world.client.conversation) ||
        decide (deriveFulfillment world.client.snapshot.events =
            deriveFulfillment (world.room.transcript dateParses) ∧
          world.client.snapshot.roster =
            sharedRosterFromConversation world.client.conversation)
    | .submitting submission (some true) =>
      (world.client.attempts.lookup submission.key).all (fits dateParses world.room)
    | _ => true
  | _, _ => true

abbrev Guard (event : Event) (world : World) : Prop := allows dateParses event world = true

/-- When a call resolves that was not disturbed, its address is current. -/
def takesEffect (event : Event) (world : World) : Bool :=
  match event, world.call with
  | .resume _, some ⟨address, _, .closing _ (some true), false⟩ =>
    currentAddress (deriveFulfillment (world.room.transcript dateParses)) = some address
  | _, _ => true

abbrev TakesEffect (event : Event) (world : World) : Prop :=
  takesEffect dateParses event world = true

end

section

variable {state : FulfillmentState} {event : SupportEvent} {key : AttemptKey}

inductive Carries (key : AttemptKey) : SupportEvent → Prop where
  | address (event : ShippingAddressEvent) (haddress : event.address = key.address)
      (happroval : event.approvedRoster = key.frozenApproval) : Carries key (.shippingAddress event)
  | correction (event : ShippingAddressCorrectionEvent) (haddress : event.address = key.address)
      (happroval : event.approvedRoster = key.frozenApproval) :
      Carries key (.shippingAddressCorrection event)

theorem currentAddress_of_isCurrent {view : FulfillmentView} (carries : Carries key event)
    (current : isCurrent view event = true) : currentAddress view = some key.address := by
  unfold currentAddress
  cases carries with
  | address event haddress _ =>
    obtain ⟨hevent, hnone⟩ := of_decide_eq_true current
    rw [hnone, hevent]
    exact congrArg some haddress
  | correction event haddress _ =>
    rw [of_decide_eq_true current]
    exact congrArg some haddress

theorem currentAddress_of_accepts (grounded : FulfillmentSafety.Grounded state)
    (carries : Carries key event) (accepted : accepts state event = true) :
    currentAddress (state.step event).view = some key.address := by
  have grounded' : FulfillmentSafety.Grounded (state.step event) :=
    grounded.move (FulfillmentSafety.step_cases state event)
  unfold currentAddress
  rw [view_addressCorrectionEvent grounded', FulfillmentSafety.view_addressEvent]
  cases carries with
  | address event haddress _ =>
    have hnone : state.addressCorrectionEvent = none := by
      cases hcorrection : state.addressCorrectionEvent with
      | none => rfl
      | some correction =>
        exact absurd (grounded.correction correction hcorrection).1
          (FulfillmentSafety.acceptsAddress_eq_true accepted).1
    have hstep : state.step (.shippingAddress event) = { state with
        addressEvent := some event
        acknowledged := false
        statusEvent := none
        trackingEvent := none } := if_pos accepted
    rw [hstep]
    dsimp only
    rw [hnone]
    exact congrArg some haddress
  | correction event haddress _ =>
    have hstep : state.step (.shippingAddressCorrection event) = { state with
        addressCorrectionEvent := some event } := if_pos accepted
    rw [hstep]
    exact congrArg some haddress

theorem accepts_buildEvent {submission : Submission} {drawn : Drawn} {parsed : SupportEvent}
    {dateParses : String → Bool} (grounded : FulfillmentSafety.Grounded state)
    (hview : submission.fulfillment = state.view)
    (valid : isValidRosterBinding submission.key.frozenApproval = true)
    (hparsed : parseSupportEvent dateParses (buildEvent submission drawn) = some parsed) :
    accepts state (buildEvent submission drawn) = true := by
  unfold buildEvent at hparsed ⊢
  dsimp only at hparsed ⊢
  rw [hview, FulfillmentSafety.view_addressEvent,
    view_addressCorrectionEvent grounded] at hparsed ⊢
  split at hparsed
  · next shipped hstage haddress =>
      obtain ⟨hid, hversion, -⟩ := parse_shippingAddressCorrection hparsed
      have hstatus := (view_stage_shipped.mp hstage).2
      have hnames : state.namesAddress shipped.addressId shipped.version = true :=
        FulfillmentSafety.namesAddress_eq_true.mpr ⟨shipped, haddress, rfl, rfl⟩
      unfold buildCorrection accepts FulfillmentState.acceptsCorrection
      dsimp only at hid hversion ⊢
      rw [hstatus, valid, hnames, hversion, hid]
      cases state.addressCorrectionEvent with
      | none => rfl
      | some correction => simp
  · next hnot =>
      obtain ⟨hid, hversion, -⟩ := parse_shippingAddress hparsed
      have hstatus : state.status ≠ some .shipped := by
        intro hshipped
        obtain ⟨status, hstatus, -⟩ := Option.map_eq_some_iff.mp hshipped
        obtain ⟨address, haddress, -, -⟩ :=
          FulfillmentSafety.namesAddress_eq_true.mp (grounded.status status hstatus).2
        exact hnot address (view_stage_shipped.mpr ⟨by rw [haddress]; rfl, hshipped⟩) haddress
      unfold buildAddress accepts FulfillmentState.acceptsAddress
      dsimp only at hid hversion ⊢
      rw [valid, hversion, hid]
      cases state.addressEvent with
      | none => simp [hstatus]
      | some address => simp [hstatus]

end

section

variable {dateParses : String → Bool} {room stored : Room} {event : SupportEvent}
  {key : AttemptKey} {submission : Submission} {actor : SharedActor} {duplicate : Bool}

structure Known (room : Room) (conversation : SharedConversation) : Prop where
  bounded : conversation.rosterVersion ≤ room.rosterVersion
  current : conversation.rosterVersion = room.rosterVersion → conversation = room.getConversation

theorem Known.self (room : Room) : Known room room.getConversation := ⟨Nat.le_refl _, fun _ => rfl⟩

/-- The approval is that of the roster in the reviewed context. -/
def Reviewed (room : Room) (submission : Submission) : Prop :=
  ∃ conversation, Known room conversation ∧
    conversation.rosterVersion = submission.rosterVersion ∧
    conversation.epoch = submission.epoch ∧
    rosterBindingFromSnapshot (sharedRosterFromConversation conversation) =
      some submission.key.frozenApproval

theorem Reviewed.valid (reviewed : Reviewed room submission) :
    isValidRosterBinding submission.key.frozenApproval = true ∧
      withoutDevices submission.key.frozenApproval = submission.key.frozenApproval := by
  obtain ⟨conversation, -, -, -, happroval⟩ := reviewed
  obtain ⟨hvalid, heq⟩ := rosterBindingFromSnapshot_some happroval
  rw [heq]
  exact ⟨isValidRosterBinding_withoutDevices hvalid, rfl⟩

theorem encode_carried {ciphertext : Ciphertext} (carries : Carries key event)
    (happroval : withoutDevices key.frozenApproval = key.frozenApproval)
    (h : encodeSimulatedSupportEvent dateParses event = some ciphertext) :
    parseSupportEvent dateParses event = some event ∧ ciphertext = .simulated event := by
  obtain ⟨parsed, hparsed, rfl⟩ := Option.map_eq_some_iff.mp h
  cases carries with
  | address event _ hevent =>
    obtain ⟨-, -, rfl⟩ := parse_shippingAddress hparsed
    rw [hevent, happroval, ← hevent] at hparsed ⊢
    exact ⟨hparsed, rfl⟩
  | correction event _ hevent =>
    obtain ⟨-, -, rfl⟩ := parse_shippingAddressCorrection hparsed
    rw [hevent, happroval, ← hevent] at hparsed ⊢
    exact ⟨hparsed, rfl⟩

theorem Carries.approvedRosterOf (carries : Carries key event) :
    approvedRosterOf event = some key.frozenApproval := by
  cases carries with
  | address event _ hevent => exact congrArg some hevent
  | correction event _ hevent => exact congrArg some hevent

theorem evidence_matches (reviewed : Reviewed room submission) {envelope : SharedEnvelope}
    (hroster : room.rosterVersion = submission.rosterVersion)
    (hversion : envelope.rosterVersion = submission.rosterVersion)
    (hepoch : envelope.epoch = submission.epoch) :
    sensitiveRosterEvidenceMatchesEnvelope submission.key.frozenApproval envelope
      (some room.getConversation) = true := by
  obtain ⟨conversation, known, hrosterVersion, hrosterEpoch, happroval⟩ := reviewed
  obtain ⟨hvalid, heq⟩ := rosterBindingFromSnapshot_some happroval
  obtain rfl := known.current (hrosterVersion.trans hroster.symm)
  have hversion' : room.getConversation.rosterVersion = envelope.rosterVersion :=
    hrosterVersion.trans hversion.symm
  have hepoch' : room.getConversation.epoch = envelope.epoch := hrosterEpoch.trans hepoch.symm
  unfold sensitiveRosterEvidenceMatchesEnvelope
  rw [heq, ← hversion', ← hepoch']
  have hbound : (withoutDevices (sharedRosterFromConversation room.getConversation)).rosterVersion =
      rosterVersionText room.getConversation.rosterVersion := rfl
  have hbound' : (withoutDevices (sharedRosterFromConversation room.getConversation)).mlsEpoch =
      .integer room.getConversation.epoch := rfl
  rw [hbound, hbound', bne_self_eq_false, bne_self_eq_false, Bool.or_self,
    if_neg Bool.false_ne_true]
  dsimp only
  rw [if_pos ⟨rfl, rfl⟩]
  exact rosterBindingsEqual_withoutDevices hvalid

/-- What is posted of an event in the reviewed context. -/
def posted (submission : Submission) (event : SupportEvent) : SubmitEnvelopeInput :=
  ⟨clientEnvelopeId event, submission.rosterVersion, submission.epoch, .simulated event⟩

theorem countedEventId_stored {envelope : SharedEnvelope} (carries : Carries key event)
    (hrole : envelope.senderRole = .customer) (hid : envelope.senderParticipantId ≠ "")
    (hblank : (trim event.id).isEmpty = false) :
    countedEventId ⟨event, authenticatedBy envelope⟩ = some (trim event.id) := by
  have hnonempty {text : String} : (text ++ envelope.senderParticipantId).isEmpty = false := by
    rw [← Bool.not_eq_true, String.isEmpty_iff, String.append_eq_empty_iff]
    exact fun h => hid h.2
  have hsender : envelope.senderParticipantId.isEmpty = false := by
    rw [← Bool.not_eq_true, String.isEmpty_iff]
    exact hid
  have hemit : canRoleEmitEvent .customer event = true := by
    cases carries <;> rfl
  have hauthorized :
      isAuthorizedSupportEvent ⟨event, authenticatedBy envelope⟩ = true := by
    unfold isAuthorizedSupportEvent authenticatedBy deviceIdFor fingerprintFor
    dsimp only
    rw [hsender, hnonempty, hnonempty, hnonempty, bne_self_eq_false, bne_self_eq_false, hrole]
    exact hemit
  unfold countedEventId
  dsimp only
  rw [hblank, hauthorized]
  rfl

theorem current_of_accepted (reviewed : Reviewed room submission)
    (carries : Carries submission.key event)
    (hparsed : parseSupportEvent dateParses event = some event)
    (hfits : fits dateParses room event = true) (hrole : actor.role = .customer)
    (hid : actor.participantId ≠ "")
    (h : room.submitEnvelope actor (posted submission event) = .ok (duplicate, stored)) :
    currentAddress (deriveFulfillment (stored.transcript dateParses)) =
      some submission.key.address := by
  unfold fits at hfits
  obtain ⟨-, -, hversion, -, ⟨-, hfound, rfl⟩ | ⟨-, hfound, rfl⟩⟩ := submitEnvelope_ok h
  · rw [posted] at hfound
    rw [hfound, if_pos rfl] at hfits
    exact currentAddress_of_isCurrent carries hfits
  · rw [posted] at hfound
    rw [hfound, if_neg Bool.false_ne_true] at hfits
    unfold isNext at hfits
    rw [Bool.and_eq_true, Bool.and_eq_true, Bool.not_eq_true', decide_eq_true_eq] at hfits
    obtain ⟨⟨hblank, hfresh⟩, haccepts⟩ := hfits
    have hopen : openSimulatedEnvelope dateParses (room.stored actor (posted submission event))
        (some room.getConversation) =
          some ⟨event, authenticatedBy (room.stored actor (posted submission event))⟩ := by
      have hdecoded : decodeSimulatedSupportEvent dateParses
          (room.stored actor (posted submission event)).ciphertext = some event := hparsed
      unfold openSimulatedEnvelope
      rw [hdecoded]
      dsimp only
      rw [carries.approvedRosterOf, Option.any_some, evidence_matches reviewed hversion rfl rfl]
      rfl
    have hcounted := @countedEventId_stored event submission.key
      (room.stored actor (posted submission event)) carries hrole hid hblank
    rw [transcript_append, hopen, deriveFulfillment_eq]
    unfold Option.toList
    rw [reduced_append hcounted hfresh]
    exact currentAddress_of_accepts (reduced_grounded _) carries haccepts

end

section

variable {dateParses : String → Bool} {room later : Room} {world : World} {call : Call}
  {submission : Submission} {drawn : Drawn} {next : World} {delivered : Bool}
  {client : SupportClient}

/-- What a call has made sure of where it awaits, as long as it is not disturbed. -/
def CallSound (dateParses : String → Bool) (room : Room) (call : Call) : Prop :=
  match call.phase with
  | .submitting submission _ =>
    submission.key.address = call.address ∧ Reviewed room submission ∧
      (call.disturbed = false →
        submission.fulfillment = deriveFulfillment (room.transcript dateParses))
  | .posting submission input none =>
    submission.key.address = call.address ∧ Reviewed room submission ∧
      ∃ event, Carries submission.key event ∧
        parseSupportEvent dateParses event = some event ∧ input = posted submission event ∧
        (call.disturbed = false → fits dateParses room event = true)
  | .posting _ _ (some (.ok _)) => call.disturbed = false →
      currentAddress (deriveFulfillment (room.transcript dateParses)) = some call.address
  | .closing _ _ => call.disturbed = false →
      currentAddress (deriveFulfillment (room.transcript dateParses)) = some call.address
  | _ => True

theorem Reviewed.move (reviewed : Reviewed room submission)
    (known : ∀ conversation, Known room conversation → Known later conversation) :
    Reviewed later submission := by
  obtain ⟨conversation, hknown, hrest⟩ := reviewed
  exact ⟨conversation, known conversation hknown, hrest⟩

theorem CallSound.move (sound : CallSound dateParses room call)
    (known : ∀ conversation, Known room conversation → Known later conversation)
    (same : call.disturbed = false → later.envelopes = room.envelopes ∧
      later.transcript dateParses = room.transcript dateParses) :
    CallSound dateParses later call := by
  unfold CallSound at sound ⊢
  split at sound
  · exact ⟨sound.1, sound.2.1.move known, fun undisturbed => by
      rw [(same undisturbed).2]
      exact sound.2.2 undisturbed⟩
  · obtain ⟨haddress, reviewed, event, carries, hparsed, hinput, hfits⟩ := sound
    refine ⟨haddress, reviewed.move known, event, carries, hparsed, hinput, fun undisturbed => ?_⟩
    have hfits := hfits undisturbed
    unfold fits Room.findEnvelope at hfits ⊢
    rw [(same undisturbed).1, (same undisturbed).2]
    exact hfits
  · intro undisturbed
    rw [(same undisturbed).2]
    exact sound undisturbed
  · intro undisturbed
    rw [(same undisturbed).2]
    exact sound undisturbed
  · trivial

theorem CallSound.disturb (sound : CallSound dateParses room call) :
    CallSound dateParses room { call with disturbed := true } := by
  obtain ⟨address, approvedRoster, phase, disturbed⟩ := call
  cases phase with
  | opening ended => trivial
  | submitting submission ended => exact ⟨sound.1, sound.2.1, nofun⟩
  | posting submission input answer =>
    cases answer with
    | none =>
      obtain ⟨haddress, reviewed, event, carries, hparsed, hinput, -⟩ := sound
      exact ⟨haddress, reviewed, event, carries, hparsed, hinput, nofun⟩
    | some result =>
      cases result with
      | ok duplicate => exact nofun
      | error code => trivial
  | closing submission ended => exact nofun
  | refused ended => trivial

theorem CallSound.endSync (sound : CallSound dateParses room call) (ended : Option Bool) :
    CallSound dateParses room (call.endSync ended) := by
  obtain ⟨address, approvedRoster, phase, disturbed⟩ := call
  cases ended with
  | none => exact sound
  | some ok =>
    unfold Call.endSync Phase.endSync
    dsimp only
    split
    · trivial
    · exact sound
    · exact sound
    · trivial
    · exact sound

structure Inv (dateParses : String → Bool) (world : World) : Prop where
  role : world.client.actor.role = .customer
  participant : world.client.actor.participantId ≠ ""
  known : Known world.room world.client.conversation
  answered : ∀ conversation,
    world.client.syncInFlight = some (.conversation (some conversation)) →
      Known world.room conversation
  complete : world.room.envelopes ≠ [] → ∀ role,
    world.room.memberships.any (fun member => member.role = role) = true
  attempts : ∀ attempt ∈ world.client.attempts, Carries attempt.1 attempt.2
  call : ∀ call, world.call = some call → CallSound dateParses world.room call

theorem Inv.ended (inv : Inv dateParses world) : Inv dateParses { world with call := none } := by
  refine { inv with call := fun call hcall => ?_ }
  cases hcall

theorem Inv.forget (inv : Inv dateParses world) (key : AttemptKey) :
    Inv dateParses (world.forget key) :=
  { inv with attempts := fun attempt hattempt =>
      inv.attempts attempt (List.mem_of_mem_filter hattempt) }

theorem syncNow_frame (client : SupportClient) :
    client.syncNow.actor = client.actor ∧ client.syncNow.conversation = client.conversation ∧
      client.syncNow.attempts = client.attempts ∧
      ∀ conversation, client.syncNow.syncInFlight = some (.conversation (some conversation)) →
        client.syncInFlight = some (.conversation (some conversation)) := by
  unfold SupportClient.syncNow
  split_ifs
  · exact ⟨rfl, rfl, rfl, fun _ h => h⟩
  · exact ⟨rfl, rfl, rfl, nofun⟩

theorem Inv.syncNow (inv : Inv dateParses world) :
    Inv dateParses { world with client := world.client.syncNow } := by
  obtain ⟨hactor, hconversation, hattempts, hsync⟩ := syncNow_frame world.client
  exact {
    role := hactor ▸ inv.role
    participant := hactor ▸ inv.participant
    known := hconversation ▸ inv.known
    answered := fun conversation h => inv.answered conversation (hsync conversation h)
    complete := inv.complete
    attempts := hattempts ▸ inv.attempts
    call := inv.call }

theorem Inv.awaitSync (inv : Inv dateParses world) {phase : Phase}
    (sound : CallSound dateParses world.room { call with phase := phase }) :
    Inv dateParses (world.awaitSync call phase) := by
  refine { inv.syncNow with call := fun other hother => ?_ }
  cases hother
  exact sound

theorem Inv.opened (inv : Inv dateParses world) (guarded :
      rosterBindingsEqual call.approvedRoster
          (sharedRosterFromConversation world.client.conversation) = true →
        deriveFulfillment world.client.snapshot.events =
            deriveFulfillment (world.room.transcript dateParses) ∧
          world.client.snapshot.roster =
            sharedRosterFromConversation world.client.conversation) :
    Inv dateParses (world.opened call) := by
  unfold World.opened
  dsimp only
  split_ifs with hroster
  · exact inv.ended
  · obtain ⟨hfulfillment, hsnapshot⟩ := guarded (by simpa using hroster)
    split
    · exact inv.ended
    · next frozenApproval happroval =>
        rw [hsnapshot] at happroval
        exact inv.awaitSync
          ⟨rfl, ⟨world.client.conversation, inv.known, rfl, rfl, happroval⟩, fun _ => hfulfillment⟩

theorem Inv.post (inv : Inv dateParses world) {event : SupportEvent}
    (haddress : submission.key.address = call.address) (reviewed : Reviewed world.room submission)
    (hcontext : world.contextMatches submission = true) (carries : Carries submission.key event)
    (hfits : parseSupportEvent dateParses event = some event → call.disturbed = false →
      fits dateParses world.room event = true) :
    Inv dateParses (world.post dateParses call submission event) := by
  unfold World.post
  split
  · exact inv.ended
  · next ciphertext hencoded =>
      obtain ⟨hparsed, rfl⟩ := encode_carried carries reviewed.valid.2 hencoded
      refine { inv with call := fun other hother => ?_ }
      cases hother
      unfold World.contextMatches at hcontext
      rw [Bool.and_eq_true, decide_eq_true_eq, decide_eq_true_eq] at hcontext
      refine ⟨haddress, reviewed, event, carries, hparsed, ?_, hfits hparsed⟩
      unfold posted
      rw [hcontext.1, hcontext.2]

theorem carries_buildEvent (submission : Submission) (drawn : Drawn) :
    Carries submission.key (buildEvent submission drawn) := by
  unfold buildEvent
  dsimp only
  split
  · exact .correction _ rfl rfl
  · exact .address _ rfl rfl

theorem Inv.submitted (inv : Inv dateParses world) {ended : Option Bool}
    (hcall : world.call = some call) (hphase : call.phase = .submitting submission ended)
    (guarded : ∀ event, world.client.attempts.lookup submission.key = some event →
      fits dateParses world.room event = true)
    (h : world.submitted dateParses call submission drawn = some next) :
    Inv dateParses next := by
  have sound := inv.call call hcall
  unfold CallSound at sound
  rw [hphase] at sound
  obtain ⟨haddress, reviewed, hfulfillment⟩ := sound
  unfold World.submitted at h
  split_ifs at h with hroles hcontext
  · cases h
    exact inv.ended
  · cases h
    exact (inv.forget submission.key).ended
  have hcontext : world.contextMatches submission = true := by simpa using hcontext
  split at h
  · next event hevent =>
      cases h
      obtain ⟨before, after, hattempts, -⟩ := List.lookup_eq_some_iff.mp hevent
      have carries : Carries submission.key event :=
        inv.attempts (submission.key, event) (by rw [hattempts]; simp)
      exact inv.post haddress reviewed hcontext carries fun _ _ => guarded event hevent
  · dsimp only at h
    split_ifs at h with hnew
    cases h
    have carries := carries_buildEvent submission drawn
    unfold World.isNew at hnew
    rw [Bool.and_eq_true, Bool.and_eq_true] at hnew
    obtain ⟨⟨hfound, hblank⟩, hfresh⟩ := hnew
    have remembered : Inv dateParses { world with client := { world.client with
        attempts := (submission.key, buildEvent submission drawn) :: world.client.attempts } } := by
      refine { inv with attempts := fun attempt hattempt => ?_ }
      rcases List.mem_cons.mp hattempt with rfl | hold
      · exact carries
      · exact inv.attempts attempt hold
    refine remembered.post haddress reviewed hcontext carries fun hparsed undisturbed => ?_
    have haccepts := accepts_buildEvent (reduced_grounded _) (hfulfillment undisturbed)
      reviewed.valid.1 hparsed
    unfold fits isNext
    dsimp only
    rw [Option.isNone_iff_eq_none.mp hfound, hblank, hfresh, haccepts]
    rfl

theorem Known.append {conversation : SharedConversation} {envelopes : List SharedEnvelope}
    (known : Known room conversation) :
    Known { room with envelopes := envelopes } conversation :=
  ⟨known.bounded, known.current⟩

theorem roles_of_isFixedRoster (h : room.isFixedRoster = true)
    (role : AuthenticatedParticipantRole) :
    room.memberships.any (fun member => member.role = role) = true := by
  unfold Room.isFixedRoster at h
  simp only [Bool.and_eq_true, decide_eq_true_eq] at h
  have hsome {role : AuthenticatedParticipantRole}
      (hcount : room.memberships.countP (fun member => member.role = role) = 1) :
      room.memberships.any (fun member => member.role = role) = true := by
    obtain ⟨member, hmember, hrole⟩ :=
      List.countP_pos_iff.mp (hcount.symm ▸ Nat.zero_lt_one)
    exact List.any_eq_true.mpr ⟨member, hmember, hrole⟩
  cases role with
  | customer => exact hsome h.1.2
  | projectStaff => exact hsome h.2

theorem Inv.servePost (inv : Inv dateParses world) {refusal : Option String}
    (hcall : world.call = some call) (h : world.servePost call refusal = some next) :
    Inv dateParses next := by
  have sound := inv.call call hcall
  unfold CallSound at sound
  unfold World.servePost at h
  split at h
  · next submission input hphase =>
      rw [hphase] at sound
      obtain ⟨haddress, reviewed, event, carries, hparsed, rfl, hfits⟩ := sound
      dsimp only at h
      cases h
      cases refusal with
      | some code =>
        refine { inv with call := fun other hother => ?_ }
        cases hother
        trivial
      | none =>
        dsimp only
        cases hresult : world.room.submitEnvelope world.client.actor
            (posted submission event) with
        | error code =>
          refine { inv with call := fun other hother => ?_ }
          cases hother
          trivial
        | ok result =>
          obtain ⟨duplicate, stored⟩ := result
          have current (undisturbed : call.disturbed = false) :
              currentAddress (deriveFulfillment (stored.transcript dateParses)) =
                some call.address :=
            (current_of_accepted reviewed carries hparsed (hfits undisturbed) inv.role
              inv.participant hresult).trans (congrArg some haddress)
          obtain ⟨-, hfixed, -, -, ⟨-, -, rfl⟩ | ⟨-, -, rfl⟩⟩ := submitEnvelope_ok hresult
          · refine { inv with call := fun other hother => ?_ }
            cases hother
            exact current
          · refine { inv with
              known := inv.known.append
              answered := fun conversation h => (inv.answered conversation h).append
              complete := fun _ => roles_of_isFixedRoster hfixed
              call := fun other hother => ?_ }
            cases hother
            exact current
  · cases h

theorem Inv.receivePost (inv : Inv dateParses world) (hcall : world.call = some call)
    (h : world.receivePost call delivered = some next) :
    Inv dateParses next := by
  have sound := inv.call call hcall
  unfold CallSound at sound
  unfold World.receivePost at h
  split at h
  · cases h
    exact inv.ended
  · next submission input duplicate hphase =>
      rw [hphase] at sound
      cases h
      exact inv.awaitSync sound
  · next submission input code hphase =>
      split_ifs at h
      · cases h
        exact (inv.forget submission.key).awaitSync trivial
      · cases h
        exact inv.ended
  · cases h

theorem Inv.resume (inv : Inv dateParses world) (hcall : world.call = some call)
    (guarded : Guard dateParses (.resume drawn) world)
    (h : world.resume dateParses call drawn = some next) : Inv dateParses next := by
  unfold Guard allows at guarded
  rw [hcall] at guarded
  dsimp only at guarded
  unfold World.resume at h
  split at h
  · next hphase =>
      rw [hphase] at guarded
      cases h
      refine inv.opened fun hroster => ?_
      rw [hroster] at guarded
      exact of_decide_eq_true guarded
  · next submission hphase =>
      rw [hphase] at guarded
      refine inv.submitted hcall hphase (fun event hevent => ?_) h
      dsimp only at guarded
      rwa [hevent, Option.all_some] at guarded
  · next submission hphase =>
      cases h
      exact (inv.forget submission.key).ended
  · cases h
    exact inv.ended
  · cases h
    exact inv.ended
  · cases h
    exact inv.ended
  · cases h
    exact inv.ended
  · cases h

theorem Inv.serveSync (inv : Inv dateParses world)
    (h : world.client.serveSync world.room = some client) :
    Inv dateParses { world with client := client } := by
  unfold SupportClient.serveSync at h
  split at h
  · cases h
    refine { inv with answered := fun conversation hsync => ?_ }
    cases Sync.conversation.inj (Option.some.inj hsync)
    exact .self world.room
  · cases h
    refine { inv with answered := fun conversation hsync => ?_ }
    cases hsync
  · cases h

theorem receiveSync_frame {received : SupportClient} {ended : Option Bool}
    (h : client.receiveSync dateParses delivered = some (received, ended)) :
    received.actor = client.actor ∧ received.attempts = client.attempts ∧
      (received.conversation = client.conversation ∨
        client.syncInFlight = some (.conversation (some received.conversation))) ∧
      ∀ conversation, received.syncInFlight ≠ some (.conversation (some conversation)) := by
  unfold SupportClient.receiveSync at h
  split at h
  · cases h
  · next sync hsync =>
      split_ifs at h
      · cases h
        exact ⟨rfl, rfl, .inl rfl, nofun⟩
      · split at h
        · cases h
          exact ⟨rfl, rfl, .inr hsync, nofun⟩
        · obtain ⟨hreceived, -⟩ := Prod.ext_iff.mp (Option.some.inj h)
          obtain rfl := hreceived
          unfold SupportClient.receivePage
          dsimp only
          split_ifs
          · exact ⟨rfl, rfl, .inl rfl, nofun⟩
          · exact ⟨rfl, rfl, .inl rfl, nofun⟩
          · exact ⟨rfl, rfl, .inl rfl, nofun⟩
          · exact ⟨rfl, rfl, .inl rfl, nofun⟩
        · cases h

theorem Inv.receiveSync (inv : Inv dateParses world) {ended : Option Bool}
    (h : world.client.receiveSync dateParses delivered = some (client, ended)) :
    Inv dateParses { world with
      client := client
      call := world.call.map fun call => call.endSync ended } := by
  obtain ⟨hactor, hattempts, hconversation, hsync⟩ := receiveSync_frame h
  have hknown : Known world.room client.conversation := by
    rcases hconversation with hsame | hanswered
    · exact hsame ▸ inv.known
    · exact inv.answered _ hanswered
  refine {
    role := hactor ▸ inv.role
    participant := hactor ▸ inv.participant
    known := hknown
    answered := fun conversation h => absurd h (hsync conversation)
    complete := inv.complete
    attempts := hattempts ▸ inv.attempts
    call := fun call hcall => ?_ }
  obtain ⟨before, hbefore, rfl⟩ := Option.map_eq_some_iff.mp hcall
  exact (inv.call before hbefore).endSync ended

theorem Inv.exchangeInvitation (inv : Inv dateParses world) {member : SharedRosterMember}
    {room : Room} (h : world.room.exchangeInvitation member = some room) :
    Inv dateParses { world with room := room } := by
  unfold Room.exchangeInvitation at h
  split_ifs at h with hrole
  cases h
  have hempty : world.room.envelopes = [] := by
    by_contra hstored
    exact hrole (inv.complete hstored member.role)
  have hknown {conversation : SharedConversation} (known : Known world.room conversation) :
      Known { world.room with
        rosterVersion := world.room.rosterVersion + 1
        epoch := world.room.epoch + 1
        memberships := world.room.memberships ++ [member] } conversation := by
    refine ⟨known.bounded.trans (Nat.le_succ _), fun hcurrent => ?_⟩
    have hbounded := known.bounded
    dsimp only at hcurrent
    omega
  refine { inv with
    known := hknown inv.known
    answered := fun conversation h => hknown (inv.answered conversation h)
    complete := fun hstored => absurd hempty hstored
    call := fun call hcall => (inv.call call hcall).move (fun _ => hknown) fun _ => ⟨rfl, ?_⟩ }
  unfold Room.transcript
  dsimp only
  rw [hempty]
  rfl

theorem Inv.submitEnvelope (inv : Inv dateParses world) {session : SharedActor}
    {input : SubmitEnvelopeInput} {duplicate : Bool} {room : Room}
    (h : world.room.submitEnvelope session input = .ok (duplicate, room)) :
    Inv dateParses { world with
      room := room
      call := world.call.map fun call =>
        { call with disturbed := call.disturbed || !duplicate } } := by
  obtain ⟨-, hfixed, -, -, ⟨rfl, -, rfl⟩ | ⟨rfl, -, rfl⟩⟩ := submitEnvelope_ok h
  · refine { inv with call := fun call hcall => ?_ }
    obtain ⟨before, hbefore, rfl⟩ := Option.map_eq_some_iff.mp hcall
    rw [Bool.not_true, Bool.or_false]
    exact inv.call before hbefore
  · refine { inv with
      known := inv.known.append
      answered := fun conversation h => (inv.answered conversation h).append
      complete := fun _ => roles_of_isFixedRoster hfixed
      call := fun call hcall => ?_ }
    obtain ⟨before, hbefore, rfl⟩ := Option.map_eq_some_iff.mp hcall
    rw [Bool.not_false, Bool.or_true]
    exact (inv.call before hbefore).disturb.move (fun _ known => known.append) nofun

end

section

variable {dateParses : String → Bool} {world next : World}

theorem Inv.start (memberships : List SharedRosterMember) (suffix : String) :
    Inv dateParses (.start memberships suffix) := by
  have hsync : (World.start memberships suffix).client.syncInFlight = none := rfl
  have hattempts : (World.start memberships suffix).client.attempts = [] := rfl
  have hcall : (World.start memberships suffix).call = none := rfl
  refine ⟨rfl, fun h => ?_, .self _, fun conversation h => ?_, fun h => absurd rfl h,
    fun attempt h => ?_, fun call h => ?_⟩
  · exact absurd (String.append_eq_empty_iff.mp h).1 (by decide)
  · rw [hsync] at h
    cases h
  · rw [hattempts] at h
    cases h
  · rw [hcall] at h
    cases h

theorem Inv.step {event : Event} (inv : Inv dateParses world)
    (guarded : Guard dateParses event world) (h : step dateParses event world = some next) :
    Inv dateParses next := by
  cases event with
  | poll =>
    cases h
    exact inv.syncNow
  | shareAddress address approvedRoster =>
    unfold AddressShares.step at h
    dsimp only at h
    split at h
    · cases h
    · split_ifs at h
      cases h
      exact inv.awaitSync trivial
  | serveSync =>
    obtain ⟨client, hclient, rfl⟩ := Option.map_eq_some_iff.mp h
    exact inv.serveSync hclient
  | receiveSync delivered =>
    obtain ⟨⟨client, ended⟩, hclient, rfl⟩ := Option.map_eq_some_iff.mp h
    exact inv.receiveSync hclient
  | servePost refusal =>
    obtain ⟨call, hcall, hserve⟩ := Option.bind_eq_some_iff.mp h
    exact inv.servePost hcall hserve
  | receivePost delivered =>
    obtain ⟨call, hcall, hreceive⟩ := Option.bind_eq_some_iff.mp h
    exact inv.receivePost hcall hreceive
  | resume drawn =>
    obtain ⟨call, hcall, hresume⟩ := Option.bind_eq_some_iff.mp h
    exact inv.resume hcall guarded hresume
  | exchangeInvitation member =>
    obtain ⟨room, hroom, rfl⟩ := Option.map_eq_some_iff.mp h
    exact inv.exchangeInvitation hroom
  | submitEnvelope session input =>
    unfold AddressShares.step at h
    dsimp only at h
    split_ifs at h
    split at h
    · cases h
    · next duplicate room hroom =>
        cases h
        exact inv.submitEnvelope hroom

theorem Inv.resolved (inv : Inv dateParses world) (event : Event) :
    TakesEffect dateParses event world := by
  unfold TakesEffect takesEffect
  split
  · next drawn address approvedRoster submission hcall =>
      exact decide_eq_true (inv.call _ hcall rfl)
  · rfl

/-- If each call derives what the stored transcript gives, and the attempts that are remembered
still fit, the address of a call that resolves undisturbed is current. -/
theorem shares_take_effect (dateParses : String → Bool) (memberships : List SharedRosterMember)
    (suffix : String) (events : List Event)
    (guarded : Guarded (step dateParses) (Guard dateParses) events (.start memberships suffix)) :
    Guarded (step dateParses) (TakesEffect dateParses) events (.start memberships suffix) := by
  have hstart : Inv dateParses (.start memberships suffix) := .start memberships suffix
  generalize World.start memberships suffix = world at hstart guarded ⊢
  induction events generalizing world with
  | nil => trivial
  | cons event rest ih =>
    exact .cons (hstart.resolved event) fun next hnext =>
      ih next (hstart.step guarded.1 hnext) (guarded.next hnext)

end

def sampleCustomer : SharedRosterMember := ⟨"customer_1", .customer, 1⟩

def sampleStaff : SharedRosterMember := ⟨"staff_1", .projectStaff, 2⟩

def sampleAddress (line1 : String) : ShippingAddress := ⟨"Ada", line1, "", "Rome", "", "", "IT", ""⟩

def sampleApproval : RecipientRosterBinding :=
  withoutDevices (sharedRosterFromConversation ⟨2, 2, [sampleCustomer, sampleStaff]⟩)

def sampleDrawn (suffix : String) : Drawn := ⟨suffix, suffix, "2026-01-01T00:00:00.000Z"⟩

def sampleDate (text : String) : Bool := text == "2026-01-01T00:00:00.000Z"

def sampleSync : List Event := [.serveSync, .receiveSync true, .serveSync, .receiveSync true]

def sampleShare (line1 suffix : String) : List Event :=
  [.shareAddress (sampleAddress line1) sampleApproval] ++ sampleSync ++
    [.resume (sampleDrawn suffix)] ++ sampleSync ++ [.resume (sampleDrawn suffix)]

def samplePosted : List Event := [.servePost none, .receivePost true] ++ sampleSync

def sampleLost : List Event := [.servePost none, .receivePost false]

def sampleResolve : Event := .resume (sampleDrawn "")

def sampleRetry : List Event :=
  sampleShare "A" "1" ++ sampleLost ++ sampleShare "A" "2" ++ samplePosted ++ [sampleResolve] ++
    sampleShare "B" "3" ++ samplePosted ++ [sampleResolve]

def sampleReturn : List Event :=
  sampleShare "A" "1" ++ sampleLost ++ sampleShare "B" "2" ++ samplePosted ++ [sampleResolve] ++
    sampleShare "A" "3" ++ samplePosted

def sampleJoin : List Event :=
  sampleShare "A" "1" ++ [.poll, .serveSync, .receiveSync true, .serveSync] ++ sampleLost ++
    [.shareAddress (sampleAddress "B") sampleApproval, .receiveSync true,
      .resume (sampleDrawn "2")] ++ sampleSync ++ [.resume (sampleDrawn "2")] ++ samplePosted

def sampleFailure : List Event :=
  [.exchangeInvitation sampleStaff, .poll, .serveSync, .receiveSync true, .receiveSync false] ++
    sampleShare "A" "1" ++ samplePosted

set_option maxRecDepth 4000 in
theorem shares_take_effect_again :
    (run (step sampleDate) sampleRetry (.start [sampleCustomer, sampleStaff] "1")).isSome = true ∧
      Guarded (step sampleDate) (TakesEffect sampleDate) sampleRetry
        (.start [sampleCustomer, sampleStaff] "1") := by
  refine ⟨?completes, shares_take_effect sampleDate [sampleCustomer, sampleStaff] "1" sampleRetry ?_⟩
  case completes =>
    delta step World.resume World.opened World.submitted World.isNew SupportClient.receiveSync
      SupportClient.receivePage Room.transcript openSimulatedEnvelope
      sensitiveRosterEvidenceMatchesEnvelope rosterBindingsEqual rosterBindingFromSnapshot
      isValidRosterBinding isValidRosterSnapshot
    rw [sameFingerprintSet_eq_isPerm]
    decide
  delta step World.resume World.opened World.submitted World.isNew SupportClient.receiveSync
    SupportClient.receivePage Guard allows fits Room.transcript openSimulatedEnvelope
    sensitiveRosterEvidenceMatchesEnvelope rosterBindingsEqual rosterBindingFromSnapshot
    isValidRosterBinding isValidRosterSnapshot
  rw [sameFingerprintSet_eq_isPerm]
  decide

set_option maxRecDepth 4000 in
/-- A call resolves whose address is not current: after the first address was shared again, after a
poll that was under way, and after a sync that failed. -/
theorem shares_come_to_nothing :
    ¬ Guarded (step sampleDate) (TakesEffect sampleDate) (sampleReturn ++ [sampleResolve])
        (.start [sampleCustomer, sampleStaff] "1") ∧
      ¬ Guarded (step sampleDate) (TakesEffect sampleDate) (sampleJoin ++ [sampleResolve])
        (.start [sampleCustomer, sampleStaff] "1") ∧
      ¬ Guarded (step sampleDate) (TakesEffect sampleDate) (sampleFailure ++ [sampleResolve])
        (.start [sampleCustomer] "1") := by
  delta step World.resume World.opened World.submitted World.isNew SupportClient.receiveSync
    SupportClient.receivePage TakesEffect takesEffect Room.transcript openSimulatedEnvelope
    sensitiveRosterEvidenceMatchesEnvelope rosterBindingsEqual rosterBindingFromSnapshot
    isValidRosterBinding isValidRosterSnapshot
  rw [sameFingerprintSet_eq_isPerm]
  decide

end JbChat.Client.AddressShares
