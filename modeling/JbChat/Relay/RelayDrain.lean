/- source: src/production/relay/relayDrain.ts, src/production/storage/relayInstallationStore.ts
   digest: A drain pass of one relay and the row lock it works under. -/

import JbChat.Foundation.FailingTrace
import JbChat.Store.Tables

/-!
The rows of the relays change in one transaction under the row lock. The delivery tables belong to
others, so each statement reads them as they are committed at that moment.
-/

set_option autoImplicit false

namespace JbChat.Relay.RelayDrain

open Foundation.FailingTrace Foundation.FailingTrace.Attempt Foundation.HashTrace
open Delivery.Snapshot Delivery.EnvelopeLog Store.Tables

structure RelayEnvelopeContext where
  projectName : Option String
  projectId : String
  senderRole : SendRole
  tag : String
deriving DecidableEq

def renderOutbound (context : RelayEnvelopeContext) (text : String) : String :=
  let project := context.projectName.getD ("Project #" ++ context.projectId)
  let who := if context.senderRole = .customer then "Customer" else "Team"
  "[" ++ context.tag ++ "] " ++ project ++ " — " ++ who ++ ":\n" ++ text

def conversationTag (conversationId : String) : String :=
  String.ofList ((conversationId.toList.filter fun c => decide (c ≠ '-')).take 4)

inductive RelayChannelKind where
  | telegram
  | email
  | whatsapp
deriving DecidableEq

/-- `relay_installations` with the state under its seal. -/
structure RelayRow extends RelayInstallationRow where
  channelKind : RelayChannelKind
  mlsState : Option String

/-- `relay_forward_watermarks` -/
structure WatermarkRow where
  relayInstallationId : String
  conversationId : String
  forwardedPosition : Nat
  processedPosition : Nat
  mlsGroupId : Option Bytes

def WatermarkRow.key (row : WatermarkRow) : String × String :=
  (row.relayInstallationId, row.conversationId)

/-- `project_refs`, as far as a pass reads it. -/
structure ProjectIdentityRow where
  projectRefId : String
  chainId : String
  projectId : String

/-- The tables that only relays write. -/
structure RelayDb where
  relays : List RelayRow
  watermarks : List WatermarkRow

/-- The verbs of the MLS bridge that a pass calls. A plaintext is taken as text. -/
structure RelayBridge where
  joinWelcome : String → Bytes → String × Bytes
  openApplication : String → Bytes → Bytes → String × String
  processCommit : String → Bytes → Bytes → String

/-- The envelopes of a conversation have different positions, which is their primary key. -/
def UniquePositions (db : DeliveryDb) : Prop :=
  (db.envelopes.map fun row => (row.conversationId, row.position)).Nodup

/-- What a pass meets: every operation has a number and may fail. The delivery tables are those
that the statement for the Welcomes reads, and those that a later statement does. -/
structure PassEnv where
  fails : Nat → Bool
  welcomesView : DeliveryDb
  delivery : Nat → DeliveryDb
  uniquePositions : ∀ n, UniquePositions (delivery n)
  projectRefs : Nat → List ProjectIdentityRow
  bridge : Nat → RelayBridge
  activeTargets : Nat → String → List (RelayChannelKind × String)
  sendText : Nat → RelayChannelKind → String → String → Bool
  projectName : Nat → String → String → Option String

/-- What a pass does outside its transaction. -/
inductive RelayEvent where
  | joined (conversationId : String) (commitPosition : Nat) (groupId : Bytes)
  | fed (conversationId : String) (groupId : Bytes) (position : Nat)
  | sent (channelKind : RelayChannelKind) (conversationId : String) (position : Nat)
      (text : String) (accepted : Bool)
deriving DecidableEq

structure DrainOutcome where
  joined : Nat
  commits : Nat
  forwarded : Nat
  sendFailures : Nat

structure ActiveRelay where
  relayInstallationId : String
  servedAccountId : String
  channelKind : RelayChannelKind

/-- The variables of a pass: the state of the bridge, the rows as the transaction sees them, and
the counts. -/
structure PassState where
  mlsState : String
  watermarks : List WatermarkRow
  outcome : DrainOutcome

section

variable (env : PassEnv) (relay : ActiveRelay)

def pendingWelcomes (watermarks : List WatermarkRow) (db : DeliveryDb) : List WelcomeRow :=
  let unjoined := db.admission.welcomes.filter fun row =>
    decide (row.targetInstallationId = relay.relayInstallationId) &&
      watermarks.all fun mark =>
        decide (mark.key ≠ (relay.relayInstallationId, row.conversationId))
  unjoined.insertionSort fun a b => a.createdAt ≤ b.createdAt

/-- `INSERT INTO relay_forward_watermarks`, with the check of the group id. -/
def insertWatermark (row : WatermarkRow) (watermarks : List WatermarkRow) :
    Option (List WatermarkRow) :=
  if row.mlsGroupId.all fun groupId => decide (1 ≤ groupId.length ∧ groupId.length ≤ 64) then
    (insertUnique "relay_forward_watermarks_pkey" WatermarkRow.key row watermarks).toOption
  else none

def joinedRow (welcome : WelcomeRow) (groupId : Bytes) : WatermarkRow where
  relayInstallationId := relay.relayInstallationId
  conversationId := welcome.conversationId
  forwardedPosition := welcome.commitPosition
  processedPosition := welcome.commitPosition
  mlsGroupId := some groupId

def joinPending (s : PassState) (welcome : WelcomeRow) : Attempt RelayEvent PassState := do
  let (mlsState, groupId) ← operation env.fails fun n =>
    some ((env.bridge n).joinWelcome s.mlsState welcome.welcomeBytes)
  record (.joined welcome.conversationId welcome.commitPosition groupId)
  let watermarks ← operation env.fails fun _ =>
    insertWatermark (joinedRow relay welcome groupId) s.watermarks
  pure { mlsState, watermarks, outcome := { s.outcome with joined := s.outcome.joined + 1 } }

end

section

variable (env : PassEnv) (relay : ActiveRelay)

/-- A conversation that the relay sits in, with the watermark row. -/
structure Seat where
  mark : WatermarkRow
  groupId : Bytes
  project : ProjectIdentityRow

def seatOf (db : DeliveryDb) (projectRefs : List ProjectIdentityRow) (mark : WatermarkRow) :
    Option Seat := do
  let groupId ← mark.mlsGroupId
  let _ ← db.memberships.find? fun row => decide (row.conversationId = mark.conversationId ∧
    row.installationId = mark.relayInstallationId ∧ row.removedAt = none)
  let conversation ← db.conversations.find? fun row =>
    decide (row.conversationId = mark.conversationId)
  let project ← projectRefs.find? fun row => decide (row.projectRefId = conversation.projectRefId)
  some ⟨mark, groupId, project⟩

def seats (watermarks : List WatermarkRow) (db : DeliveryDb)
    (projectRefs : List ProjectIdentityRow) : List Seat :=
  ((watermarks.filter fun mark =>
    decide (mark.relayInstallationId = relay.relayInstallationId)).filterMap
      (seatOf db projectRefs)).insertionSort fun a b => a.mark.conversationId ≤ b.mark.conversationId

def senderInstallation : EnvelopeSender → Option String
  | .installation _ installationId => some installationId
  | .entitlementSigner _ _ _ => none

def unprocessed (seat : Seat) (db : DeliveryDb) : List (EnvelopeRow × Option SendRole) :=
  let above := db.envelopes.filter fun row => decide (
    row.conversationId = seat.mark.conversationId ∧ seat.mark.processedPosition < row.position)
  (above.insertionSort fun a b => a.position ≤ b.position).map fun row =>
    (row, (db.memberships.find? fun member => decide (member.conversationId = row.conversationId ∧
      senderInstallation row.sender = some member.installationId)).map MembershipRow.role)

/-- The variables of the loop over one conversation. -/
structure FoldState where
  pass : PassState
  processed : Nat
  forwardedPosition : Nat
  context : Option RelayEnvelopeContext

/-- The context is made at the first message that needs it. -/
def contextOf (seat : Seat) (role : Option SendRole) (context : Option RelayEnvelopeContext) :
    Attempt RelayEvent RelayEnvelopeContext :=
  match context with
  | some context => pure context
  | none => do
    let projectName ← operation env.fails fun n =>
      some (env.projectName n seat.project.chainId seat.project.projectId)
    pure {
      projectName
      projectId := seat.project.projectId
      senderRole := role.getD .projectStaff
      tag := conversationTag seat.mark.conversationId }

def countSend (accepted : Bool) (outcome : DrainOutcome) : DrainOutcome :=
  if accepted then { outcome with forwarded := outcome.forwarded + 1 }
  else { outcome with sendFailures := outcome.sendFailures + 1 }

/-- Send an opened message to the target of the channel, if there is one. -/
def forward (target : Option String) (seat : Seat) (position : Nat) (role : Option SendRole)
    (plaintext : String) (s : FoldState) : Attempt RelayEvent FoldState :=
  match target with
  | none => pure s
  | some address => do
    let context ← contextOf env seat role s.context
    let text := renderOutbound { context with senderRole := role.getD .projectStaff } plaintext
    let accepted ← operation env.fails fun n =>
      some (env.sendText n relay.channelKind address text)
    record (.sent relay.channelKind seat.mark.conversationId position text accepted)
    pure { s with
      context := some context
      pass := { s.pass with outcome := countSend accepted s.pass.outcome } }

def foldEnvelope (target : Option String) (seat : Seat) (s : FoldState)
    (item : EnvelopeRow × Option SendRole) : Attempt RelayEvent FoldState := do
  let (envelope, role) := item
  let fed := RelayEvent.fed seat.mark.conversationId seat.groupId envelope.position
  if envelope.envelopeClass = .mlsCommit then do
    record fed
    let mlsState ← operation env.fails fun n =>
      some ((env.bridge n).processCommit s.pass.mlsState seat.groupId envelope.envelopeBytes)
    pure { s with
      pass := { s.pass with
        mlsState
        outcome := { s.pass.outcome with commits := s.pass.outcome.commits + 1 } }
      processed := envelope.position }
  else if envelope.envelopeClass = .application ∧
      senderInstallation envelope.sender ≠ some relay.relayInstallationId then do
    record fed
    let (mlsState, plaintext) ← operation env.fails fun n =>
      some ((env.bridge n).openApplication s.pass.mlsState seat.groupId envelope.envelopeBytes)
    let s ← forward env relay target seat envelope.position role plaintext
      { s with pass := { s.pass with mlsState } }
    pure { s with processed := envelope.position, forwardedPosition := envelope.position }
  else pure { s with processed := envelope.position }

/-- `UPDATE relay_forward_watermarks` -/
def advanceMark (mark : WatermarkRow) (processed forwardedPosition : Nat)
    (watermarks : List WatermarkRow) : List WatermarkRow :=
  updateWhere (fun row => decide (row.key = mark.key))
    (fun row => { row with processedPosition := processed, forwardedPosition }) watermarks

def drainSeat (target : Option String) (s : PassState) (seat : Seat) :
    Attempt RelayEvent PassState := do
  let envelopes ← operation env.fails fun n => some (unprocessed seat (env.delivery n))
  let folded ← envelopes.foldlM (foldEnvelope env relay target seat)
    { pass := s
      processed := seat.mark.processedPosition
      forwardedPosition := seat.mark.forwardedPosition
      context := none }
  if folded.processed ≠ seat.mark.processedPosition then do
    let watermarks ← operation env.fails fun _ => some
      (advanceMark seat.mark folded.processed folded.forwardedPosition folded.pass.watermarks)
    pure { folded.pass with watermarks }
  else pure folded.pass

end

section

variable (env : PassEnv) (relay : ActiveRelay)

/-- What runs under the row lock. -/
def drainBody (target : Option String) (mlsState : String) (watermarks : List WatermarkRow) :
    Attempt RelayEvent PassState := do
  let welcomes ← operation env.fails fun _ =>
    some (pendingWelcomes relay watermarks env.welcomesView)
  let joined ← welcomes.foldlM (joinPending env relay) ⟨mlsState, watermarks, ⟨0, 0, 0, 0⟩⟩
  let seated ← operation env.fails fun n =>
    some (seats relay joined.watermarks (env.delivery n) (env.projectRefs n))
  seated.foldlM (drainSeat env relay target) joined

def lockedState (relayInstallationId : String) (db : RelayDb) : Option String :=
  match db.relays.find? fun row =>
      decide (row.relayInstallationId = relayInstallationId ∧ row.active = true) with
  | some row => row.mlsState
  | none => none

def storeState (relayInstallationId mlsState : String) (relays : List RelayRow) : List RelayRow :=
  updateWhere (fun row => decide (row.relayInstallationId = relayInstallationId))
    (fun row => { row with mlsState := some mlsState }) relays

/-- Only a changed state is stored. -/
def resealState (relayInstallationId state mutated : String) (relays : List RelayRow) :
    Attempt RelayEvent (List RelayRow) :=
  if mutated ≠ state then
    operation env.fails fun _ => some (storeState relayInstallationId mutated relays)
  else pure relays

/-- `withState`: lock, run, store the state and commit. -/
def withState (relayInstallationId : String) (db : RelayDb)
    (mutate : String → List WatermarkRow → Attempt RelayEvent PassState) :
    Attempt RelayEvent (DrainOutcome × RelayDb) := do
  let _ ← operation env.fails fun _ => some ()
  let state ← operation env.fails fun _ => lockedState relayInstallationId db
  let mutated ← mutate state db.watermarks
  let relays ← resealState env relayInstallationId state mutated.mlsState db.relays
  let _ ← operation env.fails fun _ => some ()
  pure (mutated.outcome, ⟨relays, mutated.watermarks⟩)

def drainOne (db : RelayDb) : Attempt RelayEvent (DrainOutcome × RelayDb) := do
  let targets ← operation env.fails fun n => some (env.activeTargets n relay.servedAccountId)
  let target := (targets.find? fun candidate => decide (candidate.1 = relay.channelKind)).map
    Prod.snd
  withState env relay.relayInstallationId db (drainBody env relay target)

end

/-- The rows of the relays, and what their passes have done outside. -/
structure RelayRun where
  db : RelayDb
  events : List (String × RelayEvent)

/-- The result of a pass of one relay, from its first operation. -/
def passOf (env : PassEnv) (relay : ActiveRelay) (db : RelayDb) :
    Option (DrainOutcome × RelayDb) × List RelayEvent :=
  let (outcome, trace) := drainOne env relay db ⟨0, []⟩
  (outcome, trace.events)

/-- A pass that throws is rolled back. What it did outside stays. -/
def drainStep (env : PassEnv) (relay : ActiveRelay) (run : RelayRun) : RelayRun :=
  let (outcome, events) := passOf env relay run.db
  let log := run.events ++ events.map fun event => (relay.relayInstallationId, event)
  match outcome with
  | some (_, written) => ⟨written, log⟩
  | none => ⟨run.db, log⟩

section

variable {env : PassEnv} {relay : ActiveRelay} {run : RelayRun} {events : List RelayEvent}

theorem drainStep_of_some {outcome : DrainOutcome} {written : RelayDb}
    (h : passOf env relay run.db = (some (outcome, written), events)) :
    drainStep env relay run =
      ⟨written, run.events ++ events.map fun event => (relay.relayInstallationId, event)⟩ := by
  simp only [drainStep, h]

theorem drainStep_of_none (h : passOf env relay run.db = (none, events)) :
    drainStep env relay run =
      ⟨run.db, run.events ++ events.map fun event => (relay.relayInstallationId, event)⟩ := by
  simp only [drainStep, h]

end

end JbChat.Relay.RelayDrain
