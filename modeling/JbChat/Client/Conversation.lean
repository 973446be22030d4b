/- source: src/lib/messaging/conversation.ts, mls.ts
   digest: The conversation operations of a device, as programs that await the API and the storage. -/

import JbChat.Foundation.Await
import JbChat.Delivery.EnvelopeLog

/-!
Byte strings stand as opaque texts, so that their transport encodings are the identity. An awaited
function that may throw answers with an option, a request with the response to it.
-/

set_option autoImplicit false

namespace JbChat.Client.Conversation

open Foundation.Await Delivery.EnvelopeLog

/-- Property assignment on a plain object. -/
def assign {β : Type} (key : String) (value : β) : List (String × β) → List (String × β)
  | [] => [(key, value)]
  | (other, old) :: rest =>
    if other = key then (key, value) :: rest else (other, old) :: assign key value rest

structure GroupRecord where
  groupId : String
  processedPosition : Nat
deriving DecidableEq

/-- Legacy entries are the bare group ID. -/
inductive StoredGroup where
  | hex (groupId : String)
  | record (record : GroupRecord)
deriving DecidableEq

abbrev GroupMap := List (String × StoredGroup)

def asRecord : Option StoredGroup → Option GroupRecord
  | none => none
  | some (.hex groupId) => if groupId = "" then none else some ⟨groupId, 1⟩
  | some (.record record) => some record

structure CachedMessage where
  text : String
  mine : Bool
  position : Nat
deriving DecidableEq

abbrev MessageCache := List (String × CachedMessage)

structure ConversationEvent where
  envelopeId : String
  envelopeClass : EnvelopeClass
  position : Nat

structure EnvelopeBody where
  envelope : String
  senderInstallationId : Option String

structure PlanMember where
  installationId : String
  bootstrapMode : String
  keyPackage : Option String

structure ConversationPlan where
  planId : String
  conversationId : String
  rosterHash : String
  externalSendersHash : String
  roster : List PlanMember

inductive Planned where
  | existing (conversationId : String)
  | plan (plan : ConversationPlan)

inductive PlanSource where
  | claim (eligibilityClaimHandle : String)
  | conversationRequest (requestId : String)

structure MlsAddMemberResult where
  commit : String
  welcome : String
  epoch : Nat
  confirmedTranscriptHash : String

structure MlsRemoveMemberResult where
  commit : String
  epoch : Nat
  confirmedTranscriptHash : String

structure WelcomeFor where
  installationId : String
  welcome : String
  welcomeSha256 : String

structure ActivationRequest where
  ifMatch : String
  planId : String
  conversationId : String
  rosterHash : String
  externalSendersHash : String
  cipherSuite : String
  groupId : String
  epoch : Nat
  envelopeId : String
  commit : String
  envelopeSha256 : String
  resultingConfirmedTranscriptHash : String
  welcomeByInstallation : List WelcomeFor

structure WelcomeEntry where
  conversationId : String
  welcome : String
  commitPosition : Nat
deriving DecidableEq

structure ComposedIntent where
  intentId : String
  baseEpoch : Nat
  baseRosterVersion : Nat
  proposedRosterHash : String
  targetCredentialId : Option String
  takenKeyPackage : Option String

structure RelayIntentResponse where
  relayInstallationId : String
  relaySignatureKey : String
  intent : ComposedIntent
  mandatoryProposals : List (String × String)

structure MembershipMls where
  commit : String
  epoch : Nat
  confirmedTranscriptHash : String
  welcomeByInstallation : List WelcomeFor

structure CommitRequest where
  intentId : String
  expectedEpoch : Nat
  expectedRosterVersion : Nat
  proposedRosterHash : String
  mandatoryProposals : List (String × String)
  envelopeId : String
  commit : String
  envelopeSha256 : String
  baseConfirmedTranscriptHash : String
  resultingConfirmedTranscriptHash : String
  resultingEpoch : Nat
  welcomeByInstallation : List WelcomeFor
  targetCredentialId : Option String

structure PolicyHeadSummary where
  policyHeadId : String
  policyHeadSequence : Nat
  policyHeadHash : String
  witnessState : String

structure ConversationDetail where
  etag : String
  epoch : Nat
  rosterVersion : Nat
  confirmedTranscriptHash : String
  lastPosition : Nat
  policyHead : Option PolicyHeadSummary

structure EnvelopeRequest where
  ifMatch : String
  idempotencyKey : String
  envelopeId : String
  policyHeadId : String
  policyHeadSequence : Nat
  policyHeadHash : String
  expectedEpoch : Nat
  expectedRosterVersion : Nat
  expectedConfirmedTranscriptHash : String
  contentType : String
  ciphertext : String
  envelopeSha256 : String
  attachmentIds : List String

/-- The response to a request, if there is one. -/
inductive Response (β : Type) where
  | unreachable
  | refused (reasonCode : Option String)
  | accepted (body : β)
deriving DecidableEq

/-- What the operations await. -/
inductive Op where
  | readGroupMap
  | writeGroupMap (map : GroupMap)
  | readMessageCache (conversationId : String)
  | writeMessageCache (conversationId : String) (cache : MessageCache)
  | createMlsGroup (groupId : String)
  | addMlsMembers (groupId : String) (keyPackages : List String)
  | removeMlsMember (groupId signatureKey : String)
  | joinMlsWelcome (welcome : String)
  | sealMlsApplication (groupId plaintext : String)
  | openMlsApplication (groupId message : String)
  | processMlsCommit (groupId commit : String)
  | planConversation (source : PlanSource)
  | postConversation (input : ActivationRequest)
  | getWelcomes (installationId : String)
  | postRelay (conversationId channelKind : String)
  | deleteRelay (conversationId : String)
  | getConversation (conversationId : String)
  | postCommit (conversationId : String) (input : CommitRequest)
  | getEnvelope (conversationId envelopeId : String)
  | postEnvelope (conversationId : String) (input : EnvelopeRequest)
  | envelopeReceipt

abbrev Op.Answer : Op → Type
  | .readGroupMap => GroupMap
  | .writeGroupMap _ => Unit
  | .readMessageCache _ => MessageCache
  | .writeMessageCache _ _ => Unit
  | .createMlsGroup _ => Option Unit
  | .addMlsMembers _ _ => Option MlsAddMemberResult
  | .removeMlsMember _ _ => Option MlsRemoveMemberResult
  | .joinMlsWelcome _ => Option String
  | .sealMlsApplication _ _ => Option String
  | .openMlsApplication _ _ => Option String
  | .processMlsCommit _ _ => Option Unit
  | .planConversation _ => Response Planned
  | .postConversation _ => Response Unit
  | .getWelcomes _ => Response (List WelcomeEntry)
  | .postRelay _ _ => Response RelayIntentResponse
  | .deleteRelay _ => Response RelayIntentResponse
  | .getConversation _ => Response ConversationDetail
  | .postCommit _ _ => Response Nat
  | .getEnvelope _ _ => Response EnvelopeBody
  | .postEnvelope _ _ => Response Unit
  | .envelopeReceipt => Option (Option Nat)

abbrev Call := Program Op Op.Answer String

/-- A thrown answer ends the call. -/
def demand {α : Type} (error : String) : Option α → Call α
  | some answer => pure answer
  | none => .reject error

/-- `throw new Error(await reason(response, fallback))` -/
def expect {α : Type} (fallback : String) : Response α → Call α
  | .accepted body => pure body
  | .refused reasonCode => .reject (reasonCode.getD fallback)
  | .unreachable => .reject "network"

/-- A response that is not `ok` has no body. -/
def okBody {α : Type} : Response α → Call (Option α)
  | .accepted body => pure (some body)
  | .refused _ => pure none
  | .unreachable => .reject "network"

def readGroupMap : Call GroupMap := .await .readGroupMap .done

def writeGroupMap (map : GroupMap) : Call Unit := .await (.writeGroupMap map) .done

def readMessageCache (conversationId : String) : Call MessageCache :=
  .await (.readMessageCache conversationId) .done

def writeMessageCache (conversationId : String) (cache : MessageCache) : Call Unit :=
  .await (.writeMessageCache conversationId cache) .done

def createMlsGroup (groupId : String) : Call Unit :=
  .await (.createMlsGroup groupId) (demand "mls")

def addMlsMembers (groupId : String) (keyPackages : List String) : Call MlsAddMemberResult :=
  .await (.addMlsMembers groupId keyPackages) (demand "mls")

def removeMlsMember (groupId signatureKey : String) : Call MlsRemoveMemberResult :=
  .await (.removeMlsMember groupId signatureKey) (demand "mls")

def joinMlsWelcome (welcome : String) : Call String :=
  .await (.joinMlsWelcome welcome) (demand "mls")

def sealMlsApplication (groupId plaintext : String) : Call String :=
  .await (.sealMlsApplication groupId plaintext) (demand "mls")

/-- Awaited where a throw is caught. -/
def openMlsApplication (groupId message : String) : Call (Option String) :=
  .await (.openMlsApplication groupId message) .done

/-- Awaited where a throw is caught. -/
def processMlsCommit (groupId commit : String) : Call (Option Unit) :=
  .await (.processMlsCommit groupId commit) .done

def groupRecordFor (conversationId : String) : Call (Option GroupRecord) := do
  let map ← readGroupMap
  pure (asRecord (map.lookup conversationId))

def groupIdFor (conversationId : String) : Call (Option String) := do
  let record ← groupRecordFor conversationId
  pure (record.map GroupRecord.groupId)

def rememberGroup (conversationId groupId : String) (processedPosition : Nat) : Call Unit := do
  let map ← readGroupMap
  writeGroupMap (assign conversationId (.record ⟨groupId, processedPosition⟩) map)

theorem groupIdFor_bind {α : Type} (conversationId : String) (rest : Option String → Call α) :
    groupIdFor conversationId >>= rest = .await .readGroupMap fun map =>
      rest ((asRecord (List.lookup conversationId map)).map GroupRecord.groupId) := rfl

section

variable {β : Type} {key other : String} {value : β} {entries : List (String × β)}

theorem lookup_assign_self : (assign key value entries).lookup key = some value := by
  induction entries with
  | nil => simp [assign]
  | cons entry rest ih =>
    obtain ⟨name, stored⟩ := entry
    unfold assign
    split
    · exact List.lookup_cons_self
    · next hname =>
        have hne : (key == name) = false := by simpa using Ne.symm hname
        rw [List.lookup_cons, hne]
        exact ih

theorem lookup_assign_of_ne (hne : other ≠ key) :
    (assign key value entries).lookup other = entries.lookup other := by
  have hkey : (other == key) = false := by simpa using hne
  induction entries with
  | nil => simp [assign, List.lookup_cons, hkey]
  | cons entry rest ih =>
    obtain ⟨name, stored⟩ := entry
    unfold assign
    split
    · next hname =>
        subst hname
        rw [List.lookup_cons, List.lookup_cons, hkey]
    · rw [List.lookup_cons, List.lookup_cons, ih]

end

section

def planConversation (source : PlanSource) : Call (Response Planned) :=
  .await (.planConversation source) .done

def postConversation (input : ActivationRequest) : Call Unit :=
  .await (.postConversation input) (expect "activation_refused")

variable (sha256 : String → String)

/-- `groupId` and `envelopeId` are the random values of the call. -/
def activatePlannedConversation (groupId envelopeId : String) (planned : Response Planned) :
    Call String := do
  match ← expect "plan_refused" planned with
  | .existing conversationId => pure conversationId
  | .plan plan =>
    let welcomeTargets := plan.roster.filter fun member =>
      decide (member.bootstrapMode = "welcome")
    let keyPackages := welcomeTargets.filterMap PlanMember.keyPackage
    if welcomeTargets = [] ∨ keyPackages.length ≠ welcomeTargets.length ∨ "" ∈ keyPackages then
      .reject "unsupported_roster_shape"
    else
      createMlsGroup groupId
      let added ← addMlsMembers groupId keyPackages
      postConversation {
        ifMatch := "\"plan-" ++ plan.planId ++ "-1\""
        planId := plan.planId
        conversationId := plan.conversationId
        rosterHash := plan.rosterHash
        externalSendersHash := plan.externalSendersHash
        cipherSuite := "0x0001"
        groupId := groupId
        epoch := added.epoch
        envelopeId := envelopeId
        commit := added.commit
        envelopeSha256 := sha256 added.commit
        resultingConfirmedTranscriptHash := added.confirmedTranscriptHash
        welcomeByInstallation := welcomeTargets.map fun member =>
          ⟨member.installationId, added.welcome, sha256 added.welcome⟩ }
      rememberGroup plan.conversationId groupId 1
      pure plan.conversationId

def startConversation (groupId envelopeId claimHandle : String) : Call String := do
  let planned ← planConversation (.claim claimHandle)
  activatePlannedConversation sha256 groupId envelopeId planned

def acceptConversationRequest (groupId envelopeId requestId : String) : Call String := do
  let planned ← planConversation (.conversationRequest requestId)
  activatePlannedConversation sha256 groupId envelopeId planned

end

def getWelcomes (installationId : String) : Call (Option (List WelcomeEntry)) :=
  .await (.getWelcomes installationId) okBody

def joinWelcomes : List WelcomeEntry → Call Unit
  | [] => pure ()
  | entry :: entries => do
    match ← groupIdFor entry.conversationId with
    | some _ => joinWelcomes entries
    | none =>
      let groupId ← joinMlsWelcome entry.welcome
      rememberGroup entry.conversationId groupId entry.commitPosition
      joinWelcomes entries

/-- `installationId`: that of the session, if it is ready. -/
def syncWelcomes (installationId : Option String) : Call Unit := do
  match installationId with
  | none => pure ()
  | some installationId =>
    match ← getWelcomes installationId with
    | none => pure ()
    | some welcomes => joinWelcomes welcomes

section

variable (sha256 : String → String)

def conversationDetail (conversationId : String) : Call ConversationDetail :=
  .await (.getConversation conversationId) (expect "conversation_unavailable")

def postRelay (conversationId channelKind : String) : Call RelayIntentResponse :=
  .await (.postRelay conversationId channelKind) (expect "relay_refused")

def deleteRelay (conversationId : String) : Call RelayIntentResponse :=
  .await (.deleteRelay conversationId) (expect "relay_refused")

/-- The position of the Commit. -/
def postCommit (conversationId : String) (input : CommitRequest) : Call Nat :=
  .await (.postCommit conversationId input) (expect "commit_refused")

def postMembershipCommit (conversationId envelopeId : String) (composed : RelayIntentResponse)
    (mls : MembershipMls) : Call Unit := do
  let detail ← conversationDetail conversationId
  let position ← postCommit conversationId {
    intentId := composed.intent.intentId
    expectedEpoch := composed.intent.baseEpoch
    expectedRosterVersion := composed.intent.baseRosterVersion
    proposedRosterHash := composed.intent.proposedRosterHash
    mandatoryProposals := composed.mandatoryProposals
    envelopeId := envelopeId
    commit := mls.commit
    envelopeSha256 := sha256 mls.commit
    baseConfirmedTranscriptHash := detail.confirmedTranscriptHash
    resultingConfirmedTranscriptHash := mls.confirmedTranscriptHash
    resultingEpoch := mls.epoch
    welcomeByInstallation := mls.welcomeByInstallation
    targetCredentialId := composed.intent.targetCredentialId }
  match ← groupIdFor conversationId with
  | some groupId => rememberGroup conversationId groupId position
  | none => pure ()

def enableRelay (envelopeId conversationId channelKind : String) : Call Unit := do
  match ← groupIdFor conversationId with
  | none => .reject "device_cannot_commit"
  | some groupId =>
    let composed ← postRelay conversationId channelKind
    match composed.intent.takenKeyPackage with
    | none => .reject "relay_key_package_missing"
    | some keyPackage =>
      if keyPackage = "" then .reject "relay_key_package_missing"
      else
        let added ← addMlsMembers groupId [keyPackage]
        postMembershipCommit sha256 conversationId envelopeId composed {
          commit := added.commit
          epoch := added.epoch
          confirmedTranscriptHash := added.confirmedTranscriptHash
          welcomeByInstallation :=
            [⟨composed.relayInstallationId, added.welcome, sha256 added.welcome⟩] }

def disableRelay (envelopeId conversationId : String) : Call Unit := do
  match ← groupIdFor conversationId with
  | none => .reject "device_cannot_commit"
  | some groupId =>
    let composed ← deleteRelay conversationId
    let removed ← removeMlsMember groupId composed.relaySignatureKey
    postMembershipCommit sha256 conversationId envelopeId composed {
      commit := removed.commit
      epoch := removed.epoch
      confirmedTranscriptHash := removed.confirmedTranscriptHash
      welcomeByInstallation := [] }

end

section

def fetchEnvelope (conversationId envelopeId : String) : Call (Option EnvelopeBody) :=
  .await (.getEnvelope conversationId envelopeId) okBody

def postEnvelope (conversationId : String) (input : EnvelopeRequest) : Call Unit :=
  .await (.postEnvelope conversationId input) (expect "send_failed")

/-- The position of the receipt in the body of the response. -/
def envelopeReceipt : Call (Option Nat) := .await .envelopeReceipt (demand "json")

/-- The loop over the events, with the processed position and the cache of the call. -/
def decryptEvents (conversationId groupId : String) (installationId : Option String) :
    List ConversationEvent → Nat → MessageCache → Call MessageCache
  | [], _, cache => pure cache
  | event :: events, processed, cache =>
    match event.envelopeClass with
    | .mlsCommit =>
      if event.position ≤ processed then
        decryptEvents conversationId groupId installationId events processed cache
      else do
        match ← fetchEnvelope conversationId event.envelopeId with
        | none => pure cache
        | some body =>
          let merged ← if body.senderInstallationId = installationId then pure (some ())
            else processMlsCommit groupId body.envelope
          match merged with
          | none => pure cache
          | some () =>
            rememberGroup conversationId groupId event.position
            decryptEvents conversationId groupId installationId events event.position cache
    | .application =>
      if (cache.lookup event.envelopeId).isSome then
        decryptEvents conversationId groupId installationId events processed cache
      else do
        match ← fetchEnvelope conversationId event.envelopeId with
        | none => decryptEvents conversationId groupId installationId events processed cache
        | some body =>
          if body.senderInstallationId = installationId then
            decryptEvents conversationId groupId installationId events processed
              (assign event.envelopeId ⟨"", true, event.position⟩ cache)
          else
            let plaintext ← openMlsApplication groupId body.envelope
            let cache := assign event.envelopeId
              ⟨plaintext.getD "", false, event.position⟩ cache
            writeMessageCache conversationId cache
            decryptEvents conversationId groupId installationId events processed cache
    | .externalProposal =>
      decryptEvents conversationId groupId installationId events processed cache

def decryptedMessages (conversationId : String) (installationId : Option String)
    (events : List ConversationEvent) : Call MessageCache := do
  let record ← groupRecordFor conversationId
  let cache ← readMessageCache conversationId
  match record with
  | none => pure cache
  | some record =>
    decryptEvents conversationId record.groupId installationId events record.processedPosition
      cache

variable (sha256 : String → String)

def applicationContentType : String :=
  "application/vnd.juicebox.messaging.mls-private-message"

/-- `envelopeId` and `idempotencyKey` are the random values of the call. -/
def sendMessage (envelopeId idempotencyKey conversationId text : String) : Call Unit := do
  match ← groupIdFor conversationId with
  | none => .reject "group_unavailable"
  | some groupId =>
    let detail ← conversationDetail conversationId
    match detail.policyHead with
    | none => .reject "policy_head_unwitnessed"
    | some policyHead =>
      if policyHead.witnessState ≠ "verified" then .reject "policy_head_unwitnessed"
      else
        let sealed ← sealMlsApplication groupId text
        postEnvelope conversationId {
          ifMatch := detail.etag
          idempotencyKey := idempotencyKey
          envelopeId := envelopeId
          policyHeadId := policyHead.policyHeadId
          policyHeadSequence := policyHead.policyHeadSequence
          policyHeadHash := policyHead.policyHeadHash
          expectedEpoch := detail.epoch
          expectedRosterVersion := detail.rosterVersion
          expectedConfirmedTranscriptHash := detail.confirmedTranscriptHash
          contentType := applicationContentType
          ciphertext := sealed
          envelopeSha256 := sha256 sealed
          attachmentIds := [] }
        let cache ← readMessageCache conversationId
        let accepted ← envelopeReceipt
        writeMessageCache conversationId
          (assign envelopeId ⟨text, true, accepted.getD detail.lastPosition⟩ cache)

end

end JbChat.Client.Conversation
