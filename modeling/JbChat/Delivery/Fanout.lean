/- source: src/production/delivery/state.ts
   digest: The roster and routing rows of a conversation and the fan-out plan of an append. -/

import JbChat.Delivery.SnapshotDigest
import Mathlib.Data.List.Sort

/-!
Installation ids are canonical lowercase UUIDs, on which `localeCompare` is the order of
the texts.
-/

set_option autoImplicit false

namespace JbChat.Delivery.Fanout

open Foundation.HashTrace Foundation.LengthPrefix
open ValueObjects Hashes Instants Snapshot Quota SnapshotParse

structure ApplicationAppendMlsRosterProjection where
  conversationId : String
  conversationGeneration : Nat
  rosterVersion : Nat
  accountId : String
  installationId : String
  credentialId : String
  credentialFingerprint : Bytes
deriving DecidableEq

structure ApplicationAppendRecipientProjection where
  conversationId : String
  conversationGeneration : Nat
  recipientSetVersion : Nat
  accountId : String
  installationId : String
  credentialId : String
  credentialFingerprint : Bytes
  credentialRevocationVersion : Nat
  credentialState : CredentialState
  credentialExpiresAt : String
  joinedPosition : Nat
  removedPosition : Option Nat
  installationState : InstallationState
deriving DecidableEq

structure ApplicationAppendFanoutPlan where
  conversationId : String
  conversationGeneration : Nat
  rosterVersion : Nat
  rosterHash : Bytes
  recipientSetVersion : Nat
  recipientSetHash : Bytes
  position : Nat
  recipientInstallationIds : List String
  recipientCount : Nat
  planDigest : Bytes
deriving DecidableEq

/-- `APPLICATION_APPEND_RECIPIENT_INSTALLATIONS_HARD_MAX` -/
def recipientInstallationsHardMax : Nat := 2500

/-- A bounded array of rows with distinct installations and credentials, put in the order of
its installations. -/
def parseProjections {α : Type} (parse : α → Nat → Except Failure α)
    (installationId credentialId : α → String) (ceilingLabel boundMessage duplicateMessage : String)
    (value : List α) (recipientInstallationsMax : Nat) : Except Failure (List α) := do
  let maximum ← parsePositiveUint63 recipientInstallationsMax ceilingLabel
  if value.length = 0 ∨ value.length > maximum ∨ value.length > recipientInstallationsHardMax then
    .error (.invalid boundMessage)
  else
    let parsed ← parseEach parse value 0
    if ¬ (parsed.map installationId).Nodup ∨ ¬ (parsed.map credentialId).Nodup then
      .error (.invalid duplicateMessage)
    else .ok (parsed.insertionSort fun left right => installationId left ≤ installationId right)

def parseRecipientProjection (row : ApplicationAppendRecipientProjection) (index : Nat) :
    Except Failure ApplicationAppendRecipientProjection :=
  let label := "application recipient projection " ++ index.repr
  checked row [
    pass (parseNullable (parsePositiveUint63 · (label ++ " removed position"))
      row.removedPosition),
    pass (parsePositiveUint63 row.joinedPosition (label ++ " joined position")),
    refuse (∃ removed ∈ row.removedPosition, removed < row.joinedPosition)
      ("Application recipient projection " ++ index.repr ++ " removal precedes its join."),
    pass (parseConversationId row.conversationId),
    pass (parsePositiveUint63 row.conversationGeneration (label ++ " generation")),
    pass (checkUint63 row.recipientSetVersion "counter"),
    pass (parseUuidV4 row.accountId "accountId"),
    pass (parseUuidV4 row.installationId "installationId"),
    pass (parseUuidV4 row.credentialId "credentialId"),
    pass (checkHash32 row.credentialFingerprint "fingerprint"),
    pass (parsePositiveUint63 row.credentialRevocationVersion (label ++ " revocation version")),
    pass (parseRfc3339Millis row.credentialExpiresAt "timestamp")]

def parseApplicationAppendRecipientProjections
    (value : List ApplicationAppendRecipientProjection) (recipientInstallationsMax : Nat) :
    Except Failure (List ApplicationAppendRecipientProjection) :=
  parseProjections parseRecipientProjection (·.installationId) (·.credentialId)
    "application recipient projection ceiling"
    "Application recipient projections exceed their exact bounded array."
    "Application recipient projections contain duplicate roster identities."
    value recipientInstallationsMax

def parseMlsRosterProjection (row : ApplicationAppendMlsRosterProjection) (_ : Nat) :
    Except Failure ApplicationAppendMlsRosterProjection :=
  checked row [
    pass (parseConversationId row.conversationId),
    pass (parsePositiveUint63 row.conversationGeneration "MLS roster generation"),
    pass (checkUint63 row.rosterVersion "counter"),
    pass (parseUuidV4 row.accountId "accountId"),
    pass (parseUuidV4 row.installationId "installationId"),
    pass (parseUuidV4 row.credentialId "credentialId"),
    pass (checkHash32 row.credentialFingerprint "fingerprint")]

def parseApplicationAppendMlsRosterProjections
    (value : List ApplicationAppendMlsRosterProjection) (recipientInstallationsMax : Nat) :
    Except Failure (List ApplicationAppendMlsRosterProjection) :=
  parseProjections parseMlsRosterProjection (·.installationId) (·.credentialId)
    "application MLS roster ceiling"
    "Application MLS roster projections exceed their bounded array."
    "Application MLS roster projections contain duplicate identities."
    value recipientInstallationsMax

def recipientSetDigestDomain : String := "jb-msg-application-append-recipient-set/v1"

def computeApplicationAppendRecipientSetHash (H : HashFunction)
    (projections : List ApplicationAppendRecipientProjection) : Except Failure Bytes := do
  let projections ← parseApplicationAppendRecipientProjections projections projections.length
  .ok (sha256Bytes H [utf8 recipientSetDigestDomain,
    lengthPrefixed (projections.flatMap fun projection =>
      [utf8 projection.conversationId, utf8 projection.conversationGeneration.repr,
        utf8 projection.recipientSetVersion.repr, utf8 projection.accountId,
        utf8 projection.installationId, utf8 projection.credentialId,
        projection.credentialFingerprint, utf8 projection.credentialRevocationVersion.repr,
        utf8 projection.credentialState.text, utf8 projection.credentialExpiresAt,
        utf8 projection.joinedPosition.repr,
        encodeNullable (projection.removedPosition.map fun position => utf8 position.repr),
        utf8 projection.installationState.text])])

def mlsRosterDigestDomain : String := "jb-msg-application-append-mls-roster/v1"

def computeApplicationAppendMlsRosterHash (H : HashFunction)
    (projections : List ApplicationAppendMlsRosterProjection) : Except Failure Bytes := do
  let projections ← parseApplicationAppendMlsRosterProjections projections projections.length
  .ok (sha256Bytes H [utf8 mlsRosterDigestDomain,
    lengthPrefixed (projections.flatMap fun projection =>
      [utf8 projection.conversationId, utf8 projection.conversationGeneration.repr,
        utf8 projection.rosterVersion.repr, utf8 projection.accountId,
        utf8 projection.installationId, utf8 projection.credentialId,
        projection.credentialFingerprint])])

def fanoutPlanDigestDomain : String := "jb-msg-application-append-fanout-plan/v1"

/-- The plan digest does not read the count and the digest of the plan. -/
def computeApplicationAppendFanoutPlanDigest (H : HashFunction)
    (plan : ApplicationAppendFanoutPlan) : Except Failure Bytes := do
  let recipients ← parseEach (fun id _ => parseUuidV4 id "installationId")
    plan.recipientInstallationIds 0
  .ok (sha256Bytes H [utf8 fanoutPlanDigestDomain,
    lengthPrefixed ([utf8 plan.conversationId, utf8 plan.conversationGeneration.repr,
      utf8 plan.rosterVersion.repr, plan.rosterHash, utf8 plan.recipientSetVersion.repr,
      plan.recipientSetHash, utf8 plan.position.repr] ++ recipients.map utf8)])

def sameRecipientIdentity (route : ApplicationAppendRecipientProjection)
    (roster : ApplicationAppendMlsRosterProjection) : Bool :=
  decide (route.conversationId = roster.conversationId ∧
    route.conversationGeneration = roster.conversationGeneration ∧
    route.accountId = roster.accountId ∧ route.installationId = roster.installationId ∧
    route.credentialId = roster.credentialId ∧
    route.credentialFingerprint = roster.credentialFingerprint)

/-- The routing row of the sender says what its membership says. -/
def isSenderProjection (membership : LockedSenderMembership)
    (route : ApplicationAppendRecipientProjection) : Bool :=
  decide (route.accountId = membership.accountId ∧ route.credentialId = membership.credentialId ∧
    route.credentialFingerprint = membership.credentialFingerprint ∧
    route.credentialRevocationVersion = membership.credentialRevocationVersion ∧
    route.credentialState = membership.credentialState ∧
    route.credentialExpiresAt = membership.credentialExpiresAt ∧
    route.joinedPosition = membership.joinedPosition ∧ membership.removedPosition = none ∧
    route.removedPosition = membership.removedPosition ∧
    route.installationState = membership.installationState)

def routeOf (projections : List ApplicationAppendRecipientProjection) (installationId : String) :
    Option ApplicationAppendRecipientProjection :=
  projections.find? fun route => decide (route.installationId = installationId)

def receives (mlsRoster : List ApplicationAppendMlsRosterProjection) (position : Nat)
    (authoritativeReceivedAt : String) (route : ApplicationAppendRecipientProjection) : Bool :=
  (mlsRoster.any fun member => decide (member.installationId = route.installationId) &&
    sameRecipientIdentity route member) &&
    decide (route.joinedPosition ≤ position ∧
      (∀ removed ∈ route.removedPosition, position ≤ removed) ∧
      route.installationState = .active ∧ route.credentialState = .active ∧
      authoritativeReceivedAt < route.credentialExpiresAt)

structure FanoutInput where
  conversation : LockedConversationState
  senderMembership : LockedSenderMembership
  position : Nat
  authoritativeReceivedAt : String
  recipientInstallationsMax : Nat
  mlsRosterProjections : List ApplicationAppendMlsRosterProjection
  recipientProjections : List ApplicationAppendRecipientProjection

/-- The rows belong to the conversation as it stands, and route every member of it. -/
def checkFanoutRows (H : HashFunction) (conversation : LockedConversationState)
    (membership : LockedSenderMembership) (position : Nat)
    (projections : List ApplicationAppendRecipientProjection)
    (mlsRoster : List ApplicationAppendMlsRosterProjection) : Except Failure Bytes := do
  if membership.conversationId ≠ conversation.conversationId ∨
      position ≠ conversation.lastPosition + 1 then
    .error (.invalid "Application fanout is detached from its conversation lane.")
  else if ∃ route ∈ projections, route.conversationId ≠ conversation.conversationId ∨
      route.conversationGeneration ≠ conversation.generation ∨
      route.recipientSetVersion ≠ conversation.recipientSetVersion then
    .error (.invalid "Application fanout contains a foreign routing row.")
  else if ∃ member ∈ mlsRoster, member.conversationId ≠ conversation.conversationId ∨
      member.conversationGeneration ≠ conversation.generation ∨
      member.rosterVersion ≠ conversation.rosterVersion then
    .error (.invalid "Application fanout contains a foreign MLS roster row.")
  else
    let rosterHash ← computeApplicationAppendMlsRosterHash H mlsRoster
    if rosterHash ≠ conversation.rosterHash then
      .error (.invalid "Application fanout MLS roster is incomplete or substituted.")
    else
      let recipientSetHash ← computeApplicationAppendRecipientSetHash H projections
      if recipientSetHash ≠ conversation.recipientSetHash then
        .error (.invalid "Application fanout routing projection is incomplete or substituted.")
      else if ∃ member ∈ mlsRoster, ((routeOf projections member.installationId).any
          fun route => sameRecipientIdentity route member) = false then
        .error (.invalid "An active MLS roster member lacks its exact routing row.")
      else if ((routeOf projections membership.installationId).any
          (isSenderProjection membership)) = false then
        .error (.invalid
          "Application fanout does not contain the exact active sender roster row.")
      else .ok recipientSetHash

def deriveApplicationAppendFanoutPlan (H : HashFunction) (input : FanoutInput) :
    Except Failure ApplicationAppendFanoutPlan := do
  let conversation ← parseLockedConversationState input.conversation
  let membership ← parseLockedSenderMembership input.senderMembership
  let position ← parsePositiveUint63 input.position "application fanout position"
  let receivedAt ← parseRfc3339Millis input.authoritativeReceivedAt
    "application fanout authoritative time"
  let ceiling ← parsePositiveUint63 input.recipientInstallationsMax
    "application fanout recipient ceiling"
  if ceiling > recipientInstallationsHardMax then
    .error (.invalid "Application fanout recipient ceiling exceeds the reviewed cap.")
  else
    let projections ← parseApplicationAppendRecipientProjections input.recipientProjections ceiling
    let mlsRoster ← parseApplicationAppendMlsRosterProjections input.mlsRosterProjections ceiling
    let recipientSetHash ← checkFanoutRows H conversation membership position projections mlsRoster
    let recipients := ((projections.filter (receives mlsRoster position receivedAt)).map
      fun route => route.installationId).insertionSort (· ≤ ·)
    let recipientCount ← checkUint63 recipients.length "application fanout recipient count"
    let plan : ApplicationAppendFanoutPlan :=
      { conversationId := conversation.conversationId
        conversationGeneration := conversation.generation
        rosterVersion := conversation.rosterVersion
        rosterHash := conversation.rosterHash
        recipientSetVersion := conversation.recipientSetVersion
        recipientSetHash := recipientSetHash
        position := position
        recipientInstallationIds := recipients
        recipientCount := recipientCount
        planDigest := [] }
    let planDigest ← computeApplicationAppendFanoutPlanDigest H plan
    .ok { plan with planDigest := planDigest }

def parseApplicationAppendFanoutPlan (H : HashFunction) (plan : ApplicationAppendFanoutPlan)
    (recipientInstallationsMax : Nat) : Except Failure ApplicationAppendFanoutPlan := do
  let maximum ← parsePositiveUint63 recipientInstallationsMax
    "application fanout recipient ceiling"
  if plan.recipientInstallationIds.length > maximum ∨
      plan.recipientInstallationIds.length > recipientInstallationsHardMax then
    .error (.invalid "Application fanout recipient IDs exceed their bounded array.")
  else
    let recipients ← parseEach (fun id index =>
      parseUuidV4 id ("application fanout recipient " ++ index.repr))
      plan.recipientInstallationIds 0
    if ¬ recipients.Nodup ∨ ¬ recipients.IsChain (· < ·) then
      .error (.invalid "Application fanout recipient IDs are not canonical sorted unique.")
    else
      let parsed ← checked plan [
        pass (parseConversationId plan.conversationId),
        pass (parsePositiveUint63 plan.conversationGeneration "fanout generation"),
        pass (checkUint63 plan.rosterVersion "counter"),
        pass (checkHash32 plan.rosterHash "hash"),
        pass (checkUint63 plan.recipientSetVersion "counter"),
        pass (checkHash32 plan.recipientSetHash "hash"),
        pass (parsePositiveUint63 plan.position "fanout position"),
        pass (checkUint63 plan.recipientCount "counter"),
        pass (checkHash32 plan.planDigest "hash")]
      let planDigest ← computeApplicationAppendFanoutPlanDigest H parsed
      if parsed.recipientCount ≠ recipients.length ∨ parsed.planDigest ≠ planDigest then
        .error (.invalid "Application fanout plan count or digest is inconsistent.")
      else .ok parsed

end JbChat.Delivery.Fanout
