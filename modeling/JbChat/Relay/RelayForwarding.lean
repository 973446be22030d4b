/- source: src/production/relay/relayDrain.ts, src/production/storage/relayInstallationStore.ts
   digest: No envelope is forwarded twice, as long as no pass is cut after a send. -/

import JbChat.Relay.RelayTrace

set_option autoImplicit false

namespace JbChat.Relay.RelayForwarding

open Delivery.Snapshot Store.Tables RelayDrain RelayTrace

/-- A pass of one relay, or whatever else becomes of the rows of the relays: provisions,
revocations and states resealed by the inbound side. -/
inductive Step where
  | drain (env : PassEnv) (relay : ActiveRelay)
  | relays (rows : List RelayRow)

def step (move : Step) (s : RelayRun) : RelayRun :=
  match move with
  | .drain env relay => drainStep env relay s
  | .relays rows => { s with db := { s.db with relays := rows } }

def run (moves : List Step) (s : RelayRun) : RelayRun := moves.foldl (fun s move => step move s) s

/-- What sendText accepted, with the relay: the channel, the conversation and the position. -/
def forwards (s : RelayRun) : List (String × RelayChannelKind × String × Nat) :=
  s.events.filterMap fun entry => (acceptedSend entry.2).map fun send => (entry.1, send)

/-- A pass in which sendText accepted a text reaches its end: nothing after the send throws, the
commit included. -/
def Settles (move : Step) (s : RelayRun) : Prop :=
  match move with
  | .drain env relay =>
    (passOf env relay s.db).1 = none → acceptedSends (passOf env relay s.db).2 = []
  | .relays _ => True

instance (move : Step) (s : RelayRun) : Decidable (Settles move s) :=
  match move with
  | .drain env relay => inferInstanceAs (Decidable ((passOf env relay s.db).1 = none →
      acceptedSends (passOf env relay s.db).2 = []))
  | .relays _ => isTrue trivial

def SettlesAll : List Step → RelayRun → Prop
  | [], _ => True
  | move :: moves, s => Settles move s ∧ SettlesAll moves (step move s)

instance : (moves : List Step) → (s : RelayRun) → Decidable (SettlesAll moves s)
  | [], _ => isTrue trivial
  | move :: moves, s =>
    have : Decidable (SettlesAll moves (step move s)) := instDecidableSettlesAll moves (step move s)
    inferInstanceAs (Decidable (Settles move s ∧ SettlesAll moves (step move s)))

section

variable {relay : ActiveRelay} {pending : List WelcomeRow} {start rows : List WatermarkRow}
  {events : List RelayEvent}

/-- The sends of a pass against the rows before and after it. -/
structure Sends (relay : ActiveRelay) (start rows : List WatermarkRow)
    (events : List RelayEvent) : Prop where
  keyed : Keyed rows
  grows : ∀ row ∈ start, ∃ later ∈ rows, later.key = row.key ∧
    row.processedPosition ≤ later.processedPosition
  covered : ∀ send ∈ acceptedSends events, ∃ row ∈ rows,
    row.key = (relay.relayInstallationId, send.2.1) ∧ send.2.2 ≤ row.processedPosition
  above : ∀ send ∈ acceptedSends events, ∀ row ∈ start,
    row.key = (relay.relayInstallationId, send.2.1) → row.processedPosition < send.2.2
  nodup : (acceptedSends events).Nodup

theorem grows_advanceMark {mark : WatermarkRow} {upper : Nat} (forwarded : Nat)
    (keyed : Keyed rows) (isRow : mark ∈ rows) (le : mark.processedPosition ≤ upper) {row : WatermarkRow}
    (hrow : row ∈ rows) : ∃ later ∈ advanceMark mark upper forwarded rows, later.key = row.key ∧
      row.processedPosition ≤ later.processedPosition := by
  by_cases same : row.key = mark.key
  · obtain ⟨moved, hmoved, hkey, hprocessed⟩ := exists_advanceMark upper forwarded hrow same
    obtain rfl := keyed.eq_of_key_eq hrow isRow same
    exact ⟨moved, hmoved, hkey, by rwa [hprocessed]⟩
  · exact ⟨row, mem_advanceMark_of_ne hrow same, rfl, Nat.le_refl _⟩

theorem sends_of_progress (keyed : Keyed start)
    (progress : Progress relay pending start events rows) : Sends relay start rows events := by
  induction progress with
  | start => exact ⟨keyed, fun row hrow => ⟨row, hrow, rfl, Nat.le_refl _⟩, nofun, nofun, .nil⟩
  | @join before rows welcome groupId progress isPending free ih =>
    have silent : acceptedSends (before ++ [.joined welcome.conversationId
        welcome.commitPosition groupId]) = acceptedSends before := by
      rw [acceptedSends_append]
      exact List.append_nil _
    refine ⟨(progress.join groupId isPending free).keyed keyed, ?_, ?_, ?_, ?_⟩
    · intro row hrow
      obtain ⟨later, hlater, h⟩ := ih.grows row hrow
      exact ⟨later, List.mem_append_left _ hlater, h⟩
    · intro send hsend
      rw [silent] at hsend
      obtain ⟨row, hrow, h⟩ := ih.covered send hsend
      exact ⟨row, List.mem_append_left _ hrow, h⟩
    · rw [silent]
      exact ih.above
    · rw [silent]
      exact ih.nodup
  | @fold before fresh rows seat upper forwarded progress isRow own folds ih =>
    have hkey : seat.mark.key = (relay.relayInstallationId, seat.mark.conversationId) :=
      Prod.ext own rfl
    have hgrows := fun {row : WatermarkRow} (hrow : row ∈ rows) =>
      grows_advanceMark forwarded ih.keyed isRow folds.ordered hrow
    -- The row of the conversation as it was read bounds what has been sent from it so far.
    have hearlier : ∀ send ∈ acceptedSends before, send.2.1 = seat.mark.conversationId →
        send.2.2 ≤ seat.mark.processedPosition := by
      intro send hsend hsame
      obtain ⟨row, hrow, hrowKey, hle⟩ := ih.covered send hsend
      obtain rfl := ih.keyed.eq_of_key_eq hrow isRow (by rw [hrowKey, hkey, hsame])
      exact hle
    refine ⟨(progress.fold isRow own folds).keyed keyed, ?_, ?_, ?_, ?_⟩
    · intro row hrow
      obtain ⟨later, hlater, hsame, hle⟩ := ih.grows row hrow
      obtain ⟨last, hlast, hsame', hle'⟩ := hgrows hlater
      exact ⟨last, hlast, hsame'.trans hsame, Nat.le_trans hle hle'⟩
    · intro send hsend
      rw [acceptedSends_append] at hsend
      rcases List.mem_append.mp hsend with hsend | hsend
      · obtain ⟨row, hrow, hrowKey, hle⟩ := ih.covered send hsend
        obtain ⟨later, hlater, hsame, hle'⟩ := hgrows hrow
        exact ⟨later, hlater, hsame.trans hrowKey, Nat.le_trans hle hle'⟩
      · obtain ⟨hconversation, -, hupper⟩ := folds.send hsend
        obtain ⟨moved, hmoved, hsame, hprocessed⟩ := exists_advanceMark upper
          forwarded isRow rfl
        exact ⟨moved, hmoved, by rw [hsame, hkey, hconversation], by rwa [hprocessed]⟩
    · intro send hsend row hrow hrowKey
      rw [acceptedSends_append] at hsend
      rcases List.mem_append.mp hsend with hsend | hsend
      · exact ih.above send hsend row hrow hrowKey
      · obtain ⟨hconversation, hlower, -⟩ := folds.send hsend
        obtain ⟨later, hlater, hsame, hle⟩ := ih.grows row hrow
        obtain rfl := ih.keyed.eq_of_key_eq hlater isRow
          (by rw [hsame, hrowKey, hkey, hconversation])
        exact Nat.lt_of_le_of_lt hle hlower
    · rw [acceptedSends_append]
      refine List.nodup_append.mpr ⟨ih.nodup, ?_, ?_⟩
      · exact List.Nodup.of_map _ (folds.increasing.imp fun h => Nat.ne_of_lt h)
      · rintro send hsend other hother rfl
        obtain ⟨hconversation, hlower, -⟩ := folds.send hother
        have hle := hearlier send hsend hconversation
        omega

end

section

variable {s : RelayRun} {env : PassEnv} {relay : ActiveRelay}

/-- What has been sent is behind the watermark of its relay and conversation. -/
structure Inv (s : RelayRun) : Prop where
  keyed : Keyed s.db.watermarks
  covered : ∀ forward ∈ forwards s, ∃ row ∈ s.db.watermarks,
    row.key = (forward.1, forward.2.2.1) ∧ forward.2.2.2 ≤ row.processedPosition
  nodup : (forwards s).Nodup

theorem forwards_append (events : List RelayEvent) (db : RelayDb) :
    forwards ⟨db, s.events ++ events.map fun event => (relay.relayInstallationId, event)⟩ =
      forwards s ++ (acceptedSends events).map fun send => (relay.relayInstallationId, send) := by
  unfold forwards acceptedSends
  rw [List.filterMap_append, List.filterMap_map, List.map_filterMap]
  rfl

theorem Inv.step (inv : Inv s) (move : Step) (settles : Settles move s) :
    Inv (RelayForwarding.step move s) := by
  cases move with
  | relays rows => exact ⟨inv.keyed, inv.covered, inv.nodup⟩
  | drain env relay =>
    change Inv (drainStep env relay s)
    rcases passOf_cases env relay inv.keyed with
      ⟨counts, written, events, hpass, progress⟩ | ⟨events, hpass, -⟩
    · have sends := sends_of_progress inv.keyed progress
      rw [drainStep_of_some hpass]
      refine ⟨sends.keyed, ?_, ?_⟩
      · intro forward hforward
        rw [forwards_append] at hforward
        rcases List.mem_append.mp hforward with hforward | hforward
        · obtain ⟨row, hrow, hkey, hle⟩ := inv.covered forward hforward
          obtain ⟨later, hlater, hsame, hle'⟩ := sends.grows row hrow
          exact ⟨later, hlater, hsame.trans hkey, Nat.le_trans hle hle'⟩
        · obtain ⟨send, hsend, rfl⟩ := List.mem_map.mp hforward
          exact sends.covered send hsend
      · rw [forwards_append]
        refine List.nodup_append.mpr ⟨inv.nodup,
          sends.nodup.map fun _ _ h => (Prod.mk.inj h).2, ?_⟩
        rintro forward hforward other hother rfl
        obtain ⟨send, hsend, rfl⟩ := List.mem_map.mp hother
        obtain ⟨row, hrow, hkey, hle⟩ := inv.covered _ hforward
        exact absurd hle (Nat.not_le.mpr (sends.above send hsend row hrow hkey))
    · -- The rows are rolled back, so nothing may have been sent.
      have silent : acceptedSends events = [] := by
        have h := settles
        simp only [Settles, hpass] at h
        exact h trivial
      have same : forwards ⟨s.db, s.events ++ events.map fun event =>
          (relay.relayInstallationId, event)⟩ = forwards s := by
        rw [forwards_append, silent]
        exact List.append_nil _
      rw [drainStep_of_none hpass]
      exact ⟨inv.keyed, by rw [same]; exact inv.covered, by rw [same]; exact inv.nodup⟩

theorem Inv.run {moves : List Step} (inv : Inv s) (settles : SettlesAll moves s) :
    Inv (RelayForwarding.run moves s) := by
  induction moves generalizing s with
  | nil => exact inv
  | cons move moves ih => exact ih (inv.step move settles.1) settles.2

/-- In every run of passes in which none is cut after a text was accepted, no envelope is handed
successfully to sendText twice for a relay and its channel. -/
theorem forwards_at_most_once {moves : List Step} {start : RelayRun}
    (keyed : Keyed start.db.watermarks) (unsent : start.events = [])
    (settles : SettlesAll moves start) : (forwards (run moves start)).Nodup := by
  have silent : forwards start = [] := by
    unfold forwards
    rw [unsent]
    rfl
  exact (Inv.run ⟨keyed, by rw [silent]; nofun, by rw [silent]; exact .nil⟩ settles).nodup

end

def sampleConversationId : String := "00000000-0000-4000-8000-0000000000c1"
def sampleRelayId : String := "00000000-0000-4000-8000-0000000000f1"
def staffInstallationId : String := "00000000-0000-4000-8000-0000000000b1"

def sampleConversation : ConversationRow where
  realmId := "00000000-0000-4000-8000-00000000a002"
  conversationId := sampleConversationId
  projectScopeId := "00000000-0000-4000-8000-0000000000d1"
  tenantScopeId := "00000000-0000-4000-8000-00000000a001"
  kind := .purchaseSupport
  generation := 1
  releaseProfileId := "production"
  deliveryLimitsDigest := List.replicate 32 1
  releaseTrustRootDigest := List.replicate 32 2
  quotaPolicyDigest := List.replicate 32 3
  groupIdHash := List.replicate 32 4
  state := .active
  etag := "\"e2-r1\""
  epoch := 2
  rosterVersion := 1
  rosterHash := List.replicate 32 5
  recipientSetVersion := 1
  recipientSetHash := List.replicate 32 6
  confirmedTranscriptHash := List.replicate 32 7
  lastPosition := 5
  currentLogHeadHash := List.replicate 32 8
  currentPolicyHeadSequence := 2
  currentPolicyHeadHash := List.replicate 32 9
  projectRefId := "00000000-0000-4000-8000-0000000000d2"
  lastActivityAt := "2026-08-14T16:00:00.000Z"

def sampleMember (accountId installationId : String) (role : SendRole) (joinedPosition : Nat) :
    MembershipRow where
  conversationId := sampleConversationId
  accountId := accountId
  installationId := installationId
  credentialId := "00000000-0000-4000-8000-0000000000e1"
  role := role
  deliveryPurpose := .purchaseSupport
  bootstrapMode := .welcome
  joinedPosition := joinedPosition
  joinedAt := "2026-08-14T15:00:00.000Z"
  removedPosition := none
  removedAt := none

def sampleEnvelope (position : Nat) : EnvelopeRow where
  conversationId := sampleConversationId
  position := position
  envelopeId := "00000000-0000-4000-8000-00000000000e"
  envelopeClass := .application
  sender := .installation "00000000-0000-4000-8000-0000000000a1" staffInstallationId
  epoch := 2
  rosterVersion := 1
  contentType := .privateMessage
  envelopeSha256 := List.replicate 32 0
  receivedAt := "2026-08-14T16:00:00.000Z"
  transcript := none
  envelopeBytes := [1, 2, 3]
  previousHeadHash := List.replicate 32 0
  leafHash := List.replicate 32 0
  headHash := List.replicate 32 8
  logSigningKeyId := "log-1"
  logCheckpointDigest := List.replicate 32 0
  logHeadSignature := List.replicate 64 0
  expiresAt := 0

def sampleDelivery : DeliveryDb where
  conversations := [sampleConversation]
  sendGrants := []
  memberships := [
    sampleMember "00000000-0000-4000-8000-0000000000a1" staffInstallationId .projectStaff 1,
    sampleMember "00000000-0000-4000-8000-0000000000a2" sampleRelayId .customer 4]
  roleCredentials := []
  installations := []
  policyHeadAnchors := []
  membershipIntents := []
  usage := []
  quotaBindings := []
  quotaCounters := fun _ => none
  quotaReservations := []
  rosterProjections := []
  recipientProjections := []
  signingKeys := []
  custody := []
  senderFences := []
  lanes := []
  pendings := []
  acceptances := []
  httpIdempotency := []
  retirements := []
  envelopes := [sampleEnvelope 5]
  attachments := []
  envelopeAttachments := []
  mailboxCounters := []
  mailboxEntries := []
  outbox := []
  pageEnds := []
  policyTransitions := []
  admission := ⟨[], [], [], [], [], [], []⟩
  policy := ⟨[], [], [], [], [], [], [], [], [], [], []⟩

def sampleBridge : RelayBridge where
  joinWelcome := fun state _ => (state ++ "j", List.replicate 16 7)
  openApplication := fun state _ _ => (state ++ "o", "Where is my order?")
  processCommit := fun state _ _ => state ++ "c"

def sampleEnv (failing : Nat) : PassEnv where
  fails := fun n => decide (n = failing)
  welcomesView := sampleDelivery
  delivery := fun _ => sampleDelivery
  uniquePositions := fun _ => by
    unfold UniquePositions
    decide
  projectRefs := fun _ => [⟨"00000000-0000-4000-8000-0000000000d2", "1", "42"⟩]
  bridge := fun _ => sampleBridge
  activeTargets := fun _ _ => [(.telegram, "chat-1")]
  sendText := fun _ _ _ _ => true
  projectName := fun _ _ _ => none

def sampleRelay : ActiveRelay :=
  ⟨sampleRelayId, "00000000-0000-4000-8000-0000000000a2", .telegram⟩

def sampleRelays : RelayRun where
  db := {
    relays := [⟨⟨sampleRelayId, "00000000-0000-4000-8000-0000000000a2", true⟩, .telegram,
      some "s"⟩]
    watermarks := [⟨sampleRelayId, sampleConversationId, 4, 4, some (List.replicate 16 7)⟩] }
  events := []

/-- The first pass is cut at its commit, the eleventh operation after the first, and the second
sends the text again. -/
theorem envelope_forwarded_twice :
    forwards (run [.drain (sampleEnv 11) sampleRelay, .drain (sampleEnv 12) sampleRelay]
      sampleRelays) =
      [(sampleRelayId, .telegram, sampleConversationId, 5),
        (sampleRelayId, .telegram, sampleConversationId, 5)] := by
  decide

/-- A pass that is cut at the send itself is repeated without harm. -/
theorem forwards_at_most_once_repeated :
    (forwards (run [.drain (sampleEnv 8) sampleRelay, .drain (sampleEnv 12) sampleRelay,
      .drain (sampleEnv 12) sampleRelay] sampleRelays)).Nodup :=
  forwards_at_most_once (by unfold Keyed; decide) rfl (by decide)

end JbChat.Relay.RelayForwarding
