/- source: src/production/http/messagingHttp.ts, src/production/storage/membershipIntentStore.ts
   digest: What requests of installations outside a conversation do to its membership state. -/

import JbChat.Store.ExactlyOnce
import JbChat.Store.LogOrder

/-!
The HTTP layer names the installation of the session as the requester and turns a claim handle
into the grant it belongs to. Whether the requester may ask for a change is left to the store.
-/

set_option autoImplicit false

namespace JbChat.Http.MembershipRequests

open Foundation.HashTrace
open Foundation.Transaction Delivery.ValueObjects Delivery.Snapshot Store.Documents Store.Tables
open Store.Authority Store.Provisioning Store.AppendStore Store.ExactlyOnce
open Store.MembershipIntents Store.ExternalProposals Store.MembershipCommits Store.MembershipSafety
open Store.LogOrder Store.RotationSafety

section

/-- The columns of `eligibility_grants` that lead from a claim handle to its grant. -/
structure ClaimRow where
  claimHandleHash : Bytes
  grantId : String
  projectRefId : String

structure MembershipWorld where
  claims : List ClaimRow
  tables : DeliveryDb

/-- `HANDLE_PATTERN` -/
def isClaimHandle (text : String) : Bool :=
  decide (text.length = 43) && text.toList.all fun c => decide (c ∈ Foundation.Base64Url.alphabet)

structure IntentBody where
  operation : IntentOperation
  targetInstallationId : String
  eligibilityClaimHandle : Option String

/-- A request of an authenticated installation, or a call of another writer of the log. -/
inductive ConversationRequest where
  | createMembershipIntent (installationId conversationId : String) (entropy : IntentEntropy)
      (body : IntentBody)
  | cancelMembershipIntent (installationId conversationId intentId : String)
  | log (call : LogCall)

inductive ConversationResponse where
  | notFound
  | grantInvalid
  | created (outcome : Except Failure MembershipIntentCreation)
  | cancelled (outcome : Except Failure MembershipIntentResolution)
  | expired (outcome : Except Failure Nat)
  | recorded (outcome : Except Failure ExternalProposalRecording)
  | committed (outcome : Except Failure MembershipCommitResult)
  | appended (outcome : Except Failure Outcome)

variable (hmacEligibilityClaimHandle : String → Bytes) (H : HashFunction)
  (keys : AuthorityDerivations) (checks : DocumentChecks)

def claimedGrant (world : MembershipWorld) (handle : String) : Option String :=
  if isClaimHandle handle then
    onlyRow ((world.claims.filter fun claim =>
      decide (claim.claimHandleHash = hmacEligibilityClaimHandle handle)).flatMap fun claim =>
        (world.tables.admission.eligibilityGrants.filter fun grant =>
          decide (grant.grantId = claim.grantId ∧ grant.state = .active)).map fun grant =>
            grant.grantId)
  else none

def intentInput (installationId conversationId : String) (body : IntentBody)
    (grantId : Option String) : CreateIntentInput where
  operation := body.operation
  conversationId := conversationId
  targetInstallationId := body.targetInstallationId
  requestedByInstallationId := some installationId
  grantId := grantId

/-- What the store is asked for, unless the handle is refused. -/
def requestedIntent (world : MembershipWorld) (installationId conversationId : String)
    (body : IntentBody) : Option CreateIntentInput :=
  match body.eligibilityClaimHandle with
  | none => some (intentInput installationId conversationId body none)
  | some handle => (claimedGrant hmacEligibilityClaimHandle world handle).map fun grantId =>
    intentInput installationId conversationId body (some grantId)

def createMembershipIntent (installationId conversationId : String) (entropy : IntentEntropy)
    (body : IntentBody) (world : MembershipWorld) : ConversationResponse × MembershipWorld :=
  if isLowercaseUuid conversationId then
    match requestedIntent hmacEligibilityClaimHandle world installationId conversationId body with
    | none => (.grantInvalid, world)
    | some input =>
      let (outcome, tables) := createIntent H keys entropy input world.tables
      (.created outcome, { world with tables := tables })
  else (.notFound, world)

/-- The conversation of the path is not compared with the one of the intent. -/
def cancelMembershipIntent (installationId conversationId intentId : String)
    (world : MembershipWorld) : ConversationResponse × MembershipWorld :=
  if isLowercaseUuid conversationId && isLowercaseUuid intentId then
    match cancelIntent H intentId installationId world.tables with
    | (.ok .unknown, tables) => (.notFound, { world with tables := tables })
    | (outcome, tables) => (.cancelled outcome, { world with tables := tables })
  else (.notFound, world)

def logResponse (db : DeliveryDb) : LogCall → ConversationResponse
  | .membership (.createIntent entropy input) => .created (createIntent H keys entropy input db).1
  | .membership (.cancelIntent intentId requester) =>
    .cancelled (cancelIntent H intentId requester db).1
  | .membership (.expireIntents now) => .expired (expireIntents H now db).1
  | .membership (.recordProposal signer entropy input) =>
    .recorded (recordProposal H signer entropy input db).1
  | .membership (.consumeCommit signer entropy input) =>
    .committed (consumeCommit keys H signer entropy input db).1
  | .append call => .appended (call.run H checks db).1

def respond (world : MembershipWorld) :
    ConversationRequest → ConversationResponse × MembershipWorld
  | .createMembershipIntent installationId conversationId entropy body =>
    createMembershipIntent hmacEligibilityClaimHandle H keys installationId conversationId entropy
      body world
  | .cancelMembershipIntent installationId conversationId intentId =>
    cancelMembershipIntent H installationId conversationId intentId world
  | .log call => (logResponse H keys checks world.tables call,
      { world with tables := call.run H keys checks world.tables })

/-- The responses of a run, and what is there after it. -/
def respondAll : List ConversationRequest → MembershipWorld →
    List ConversationResponse × MembershipWorld
  | [], world => ([], world)
  | request :: rest, world =>
    let (response, next) := respond hmacEligibilityClaimHandle H keys checks world request
    let (responses, final) := respondAll rest next
    (response :: responses, final)

def Outsider (conversationId : String) (world : MembershipWorld) : ConversationRequest → Prop
  | .createMembershipIntent installationId _ _ body =>
    (∀ row ∈ liveMembers world.tables conversationId, row.installationId ≠ installationId) ∧
      ∀ handle, body.eligibilityClaimHandle = some handle → ∀ claim ∈ world.claims,
        claim.claimHandleHash = hmacEligibilityClaimHandle handle →
          ∀ row ∈ world.tables.conversations, row.conversationId = conversationId →
            claim.projectRefId ≠ row.projectRefId
  | .cancelMembershipIntent installationId _ _ =>
    ∀ row ∈ liveMembers world.tables conversationId, row.installationId ≠ installationId
  | .log _ => False

/-- A removal of a live member that is not the relay of another account. -/
def RemovesMember (db : DeliveryDb) (input : CreateIntentInput) : Prop :=
  input.operation = .remove ∧
    ((liveMembers db input.conversationId).filter fun row =>
      decide (row.installationId = input.targetInstallationId)).length = 1 ∧
    relayRoleFor db input.conversationId input.targetInstallationId
      input.requestedByInstallationId ≠ .relayNotYours

/-- An addition with a live grant of the target's account, of whatever project, and with an
available KeyPackage. -/
def AddsByGrant (db : DeliveryDb) (entropy : IntentEntropy) (input : CreateIntentInput)
    (kind : ConversationKind) (target : InstallationRow) : Prop :=
  input.operation = .add ∧
    (∃ grantId grant, input.grantId = some grantId ∧
      onlyRow (db.admission.eligibilityGrants.filter fun row => decide (row.grantId = grantId)) =
        some grant ∧ grant.state = .active ∧ entropy.now < grant.validUntil ∧
          grant.accountId = target.accountId ∧ grant.capability ∈ admittedCapabilities kind) ∧
    availablePackage db entropy.now input entropy.lockedPackages ≠ none

/-- The change that the store lets the request make. -/
def Opens (world : MembershipWorld) : ConversationRequest → Prop
  | .createMembershipIntent installationId conversationId entropy body =>
    ∃ input conversation target,
      requestedIntent hmacEligibilityClaimHandle world installationId conversationId body =
        some input ∧ intentConversation world.tables input = .ok conversation ∧
          intentTarget world.tables input = .ok target ∧
            (RemovesMember world.tables input ∨
              AddsByGrant world.tables entropy input conversation.kind target)
  | _ => False

def NamesIntentOf (conversationId : String) (world : MembershipWorld) :
    ConversationRequest → Prop
  | .cancelMembershipIntent _ _ intentId => ∀ intent ∈ world.tables.membershipIntents,
      intent.intentId = intentId → intent.conversationId = conversationId
  | _ => True

/-- The requests of a run without the inserted ones. -/
def original (requests : List (Bool × ConversationRequest)) : List ConversationRequest :=
  (requests.filter fun request => !request.1).map Prod.snd

def originalResponses (requests : List (Bool × ConversationRequest))
    (responses : List ConversationResponse) : List ConversationResponse :=
  ((requests.zip responses).filter fun answered => !answered.1.1).map Prod.snd

end

section

variable {hmacEligibilityClaimHandle : String → Bytes} {H : HashFunction}
  {keys : AuthorityDerivations} {checks : DocumentChecks} {world : MembershipWorld}
  {entropy : IntentEntropy} {conversationId : String}

theorem admitIntent_eq_error {db : DeliveryDb} {input : CreateIntentInput}
    (formed : input.wellFormed = true)
    (closed : ∀ conversation target, intentConversation db input = .ok conversation →
      intentTarget db input = .ok target →
        ¬ (RemovesMember db input ∨ AddsByGrant db entropy input conversation.kind target)) :
    ∃ refusal, admitIntent db entropy.now input entropy.lockedPackages = .error refusal := by
  cases hadmits : admitIntent db entropy.now input entropy.lockedPackages with
  | error refusal => exact ⟨refusal, rfl⟩
  | ok admitted =>
    exfalso
    unfold admitIntent at hadmits
    obtain ⟨conversation, hconversation, hadmits⟩ := bind_ok.mp hadmits
    obtain ⟨target, htarget, hadmits⟩ := bind_ok.mp hadmits
    refine closed conversation target hconversation htarget ?_
    split at hadmits
    · next hadd =>
        obtain ⟨capability, hgrant, hadmits⟩ := bind_ok.mp hadmits
        refine .inr ⟨hadd, ?_, ?_⟩
        · unfold additionGrant at hgrant
          split at hgrant
          · cases hgrant
          · next grantId hid =>
              split at hgrant
              · cases hgrant
              · next grant hrow =>
                  split at hgrant
                  · cases hgrant
                  · next hvalid =>
                      push Not at hvalid
                      exact ⟨grantId, grant, hid, hrow, hvalid⟩
        · intro hnone
          rw [hnone] at hadmits
          cases hadmits
    · next hother =>
        obtain ⟨u, hremoval, -⟩ := bind_ok.mp hadmits
        unfold removalTarget at hremoval
        split at hremoval
        · cases hremoval
        · next hmember =>
            split at hremoval
            · cases hremoval
            · next hrelay =>
                refine .inl ⟨?_, not_not.mp hmember, hrelay⟩
                cases hoperation : input.operation with
                | add => exact absurd hoperation hother
                | remove => rfl
                | replaceInstallation =>
                  unfold CreateIntentInput.wellFormed at formed
                  rw [hoperation] at formed
                  simp at formed

theorem createMembershipIntent_closed {installationId : String} {body : IntentBody}
    (closed : ¬ Opens hmacEligibilityClaimHandle world
      (.createMembershipIntent installationId conversationId entropy body)) :
    (createMembershipIntent hmacEligibilityClaimHandle H keys installationId conversationId entropy
      body world).2 = world := by
  unfold createMembershipIntent
  split
  · split
    · rfl
    · next input hinput =>
        have hsame : (createIntent H keys entropy input world.tables).2 = world.tables := by
          unfold createIntent
          split
          · next formed =>
              obtain ⟨refusal, hrefused⟩ := admitIntent_eq_error formed
                fun conversation target hconversation htarget hopen =>
                  closed ⟨input, conversation, target, hinput, hconversation, htarget, hopen⟩
              unfold sqlBegin createIntentTx
              rw [hrefused]
          · rfl
        dsimp only
        rw [hsame]
  · rfl

theorem cancelMembershipIntent_outside {installationId intentId C : String}
    (outside : ∀ row ∈ liveMembers world.tables C, row.installationId ≠ installationId)
    (named : ∀ intent ∈ world.tables.membershipIntents, intent.intentId = intentId →
      intent.conversationId = C) :
    (cancelMembershipIntent H installationId conversationId intentId world).2 = world := by
  have hnone : cancellableIntent world.tables intentId installationId = none := by
    unfold cancellableIntent
    split
    · rfl
    · next intent hintent =>
        have hrow : intent ∈ world.tables.membershipIntents.filter fun row =>
            decide (row.intentId = intentId) := by
          rw [onlyRow_eq_some.mp hintent]
          exact List.mem_singleton_self _
        obtain ⟨hmem, hid⟩ := List.mem_filter.mp hrow
        have hC : intent.conversationId = C := named intent hmem (of_decide_eq_true hid)
        rw [if_pos]
        right
        have hempty : ((liveMembers world.tables intent.conversationId).filter fun row =>
            decide (row.installationId = installationId)) = [] := by
          refine List.filter_eq_nil_iff.mpr fun row hrow => ?_
          rw [decide_eq_true_iff]
          exact outside row (hC ▸ hrow)
        rw [hempty]
        decide
  have hsame : cancelIntent H intentId installationId world.tables =
      (.ok .unknown, world.tables) := by
    unfold cancelIntent sqlBegin cancelIntentTx
    rw [hnone]
    split <;> rfl
  unfold cancelMembershipIntent
  split
  · rw [hsame]
  · rfl

theorem respond_outside {request : ConversationRequest}
    (outside : Outsider hmacEligibilityClaimHandle conversationId world request)
    (closed : ¬ Opens hmacEligibilityClaimHandle world request)
    (named : NamesIntentOf conversationId world request) :
    (respond hmacEligibilityClaimHandle H keys checks world request).2 = world := by
  cases request with
  | createMembershipIntent installationId path entropy body =>
    exact createMembershipIntent_closed closed
  | cancelMembershipIntent installationId path intentId =>
    exact cancelMembershipIntent_outside outside named
  | log call => exact outside.elim

end

section

variable {hmacEligibilityClaimHandle : String → Bytes} {H : HashFunction}
  {keys : AuthorityDerivations} {checks : DocumentChecks} {conversationId : String}
  {request : ConversationRequest}

theorem createMembershipIntent_of_created {installationId : String} {entropy : IntentEntropy}
    {body : IntentBody} {claims : List ClaimRow} {db written : DeliveryDb}
    {input : CreateIntentInput} {outcome : Except Failure MembershipIntentCreation}
    (hpath : isLowercaseUuid conversationId = true)
    (hinput : requestedIntent hmacEligibilityClaimHandle ⟨claims, db⟩ installationId
      conversationId body = some input)
    (hcreated : createIntent H keys entropy input db = (outcome, written)) :
    createMembershipIntent hmacEligibilityClaimHandle H keys installationId conversationId entropy
      body ⟨claims, db⟩ = (.created outcome, ⟨claims, written⟩) := by
  unfold createMembershipIntent
  rw [if_pos hpath, hinput]
  dsimp only
  rw [hcreated]

theorem respondAll_cons {rest : List ConversationRequest} {world next : MembershipWorld}
    {response : ConversationResponse}
    (h : respond hmacEligibilityClaimHandle H keys checks world request = (response, next)) :
    respondAll hmacEligibilityClaimHandle H keys checks (request :: rest) world =
      (response :: (respondAll hmacEligibilityClaimHandle H keys checks rest next).1,
        (respondAll hmacEligibilityClaimHandle H keys checks rest next).2) := by
  rw [respondAll, h]

/-- The inserted requests of a run are of outsiders, and open no change. -/
def KeptOut (hmacEligibilityClaimHandle : String → Bytes) (H : HashFunction)
    (keys : AuthorityDerivations) (checks : DocumentChecks) (conversationId : String)
    (start : MembershipWorld) (requests : List (Bool × ConversationRequest)) : Prop :=
  ∀ before request after, requests = before ++ (true, request) :: after →
    let world := (respondAll hmacEligibilityClaimHandle H keys checks (before.map Prod.snd) start).2
    Outsider hmacEligibilityClaimHandle conversationId world request ∧
      ¬ Opens hmacEligibilityClaimHandle world request ∧
        NamesIntentOf conversationId world request

theorem KeptOut.tail {start : MembershipWorld} {inserted : Bool}
    {rest : List (Bool × ConversationRequest)}
    (h : KeptOut hmacEligibilityClaimHandle H keys checks conversationId start
      ((inserted, request) :: rest)) :
    KeptOut hmacEligibilityClaimHandle H keys checks conversationId
      (respond hmacEligibilityClaimHandle H keys checks start request).2 rest := by
  intro before other after hrest
  exact h ((inserted, request) :: before) other after (congrArg ((inserted, request) :: ·) hrest)

variable (hmacEligibilityClaimHandle H keys checks) in
/-- Requests of outsiders that open no change can be left out of a run: the tables at its end and
the responses to all other requests are the same. -/
theorem outsiders_leave_no_trace (conversationId : String) (start : MembershipWorld)
    (requests : List (Bool × ConversationRequest))
    (keptOut : KeptOut hmacEligibilityClaimHandle H keys checks conversationId start requests) :
    let whole := respondAll hmacEligibilityClaimHandle H keys checks (requests.map Prod.snd) start
    let without := respondAll hmacEligibilityClaimHandle H keys checks (original requests) start
    whole.2 = without.2 ∧ originalResponses requests whole.1 = without.1 := by
  induction requests generalizing start with
  | nil => exact ⟨rfl, rfl⟩
  | cons head rest ih =>
    obtain ⟨inserted, request⟩ := head
    obtain ⟨hfinal, hresponses⟩ := ih _ keptOut.tail
    cases inserted with
    | true =>
      obtain ⟨outside, closed, named⟩ := keptOut [] request rest rfl
      have hsame : (respond hmacEligibilityClaimHandle H keys checks start request).2 = start :=
        respond_outside outside closed named
      rw [hsame] at hfinal hresponses
      refine ⟨?_, ?_⟩
      · change (respondAll hmacEligibilityClaimHandle H keys checks (rest.map Prod.snd)
          (respond hmacEligibilityClaimHandle H keys checks start request).2).2 = _
        rw [hsame]
        exact hfinal
      · change originalResponses rest (respondAll hmacEligibilityClaimHandle H keys checks
          (rest.map Prod.snd)
            (respond hmacEligibilityClaimHandle H keys checks start request).2).1 = _
        rw [hsame]
        exact hresponses
    | false =>
      refine ⟨hfinal, ?_⟩
      exact congrArg
        ((respond hmacEligibilityClaimHandle H keys checks start request).1 :: ·) hresponses

end

def outsiderInstallationId : String := "00000000-0000-4000-8000-0000000000b9"

/-- The support conversation beside an installation that has nothing to do with it. -/
def outsiderDb : DeliveryDb :=
  { sampleDb with
    installations := sampleDb.installations ++
      [⟨outsiderInstallationId, "00000000-0000-4000-8000-0000000000a9", List.replicate 32 9,
        .active⟩] }

def outsiderWorld : MembershipWorld := ⟨[], outsiderDb⟩

def customerRemoval : IntentBody := ⟨.remove, customerInstallationId, none⟩

/-- Anybody's request to remove the customer. -/
def removalBy (installationId : String) : ConversationRequest :=
  .createMembershipIntent installationId sampleConversationId sampleEntropy customerRemoval

def removalInput (installationId : String) : CreateIntentInput :=
  intentInput installationId sampleConversationId customerRemoval none

/-- The tables once the removal is requested. -/
def removalDb (installationId : String) : DeliveryDb :=
  { outsiderDb with
    conversations := [{ sampleConversation with state := .membershipPending }]
    membershipIntents := [{ sampleIntent with requestedByInstallationId := some installationId }] }

def removalCreated (installationId : String) : CreatedIntent :=
  { sampleCreated with
    authorizedCommitterInstallationIds := authorizedCommitters (removalDb installationId)
      sampleConversationId .purchaseSupport (some customerInstallationId) }

theorem storeIntent_removal {installationId : String}
    (known : (outsiderDb.installations.any fun row =>
      decide (row.installationId = installationId)) = true) :
    storeIntent lastBytes sampleEntropy (removalInput installationId) sampleAdmitted none
      outsiderDb = .ok (.created (removalCreated installationId), removalDb installationId) := by
  have hroster : projectedRoster outsiderDb (removalInput installationId)
      sampleAdmitted.conversation sampleAdmitted.target none = sampleRoster := by
    change projectedRoster sampleDb sampleRemoval sampleAdmitted.conversation
      sampleAdmitted.target none = sampleRoster
    rfl
  have hrefreshed : refreshCustodySnapshotDigest lastBytes sampleConversationId
      (removalDb installationId) = .ok ((), removalDb installationId) :=
    refreshCustodySnapshotDigest_of_no_custody rfl
  have hinserted : insertIntent
      { sampleIntent with requestedByInstallationId := some installationId } outsiderDb =
        .ok { outsiderDb with membershipIntents :=
          [{ sampleIntent with requestedByInstallationId := some installationId }] } := by
    unfold insertIntent
    exact (if_neg (not_not.mpr rfl)).trans ((if_neg (not_not.mpr known)).trans rfl)
  unfold storeIntent
  rw [sampleExpiry, hroster, sampleRoster_hash]
  refine bind_ok.mpr ⟨_, rfl, bind_ok.mpr ⟨_, rfl, ?_⟩⟩
  refine bind_ok.mpr ⟨_, hinserted, ?_⟩
  refine bind_ok.mpr ⟨_, rfl, bind_ok.mpr ⟨_, hrefreshed, rfl⟩⟩

theorem respond_removal (hmac : String → Bytes) (installationId : String)
    (formed : (removalInput installationId).wellFormed = true)
    (admits : admitIntent outsiderDb sampleEntropy.now (removalInput installationId) [] =
      .ok sampleAdmitted)
    (known : (outsiderDb.installations.any fun row =>
      decide (row.installationId = installationId)) = true) :
    respond hmac lastBytes sampleKeys lenientChecks outsiderWorld (removalBy installationId) =
      (.created (.ok (.created (removalCreated installationId))),
        ⟨[], removalDb installationId⟩) := by
  have hpath : isLowercaseUuid sampleConversationId = true := by decide +kernel
  have hinput : requestedIntent hmac outsiderWorld installationId sampleConversationId
      customerRemoval = some (removalInput installationId) := rfl
  have hcreated : createIntent lastBytes sampleKeys sampleEntropy (removalInput installationId)
      outsiderDb = (.ok (.created (removalCreated installationId)), removalDb installationId) :=
    createIntent_of_stored formed admits rfl (storeIntent_removal known)
  exact createMembershipIntent_of_created hpath hinput hcreated

theorem respond_again (hmac : String → Bytes) (installationId : String) :
    respond hmac lastBytes sampleKeys lenientChecks ⟨[], removalDb installationId⟩
      (removalBy staffInstallationId) =
        (.created (.ok .conflict), ⟨[], removalDb installationId⟩) := by
  have hpath : isLowercaseUuid sampleConversationId = true := by decide +kernel
  have hformed : (removalInput staffInstallationId).wellFormed = true := by decide +kernel
  have hrefused : admitIntent (removalDb installationId) sampleEntropy.now
      (removalInput staffInstallationId) sampleEntropy.lockedPackages = .error .conflict := rfl
  have hinput : requestedIntent hmac ⟨[], removalDb installationId⟩ staffInstallationId
      sampleConversationId customerRemoval = some (removalInput staffInstallationId) := rfl
  have hcreated : createIntent lastBytes sampleKeys sampleEntropy
      (removalInput staffInstallationId) (removalDb installationId) =
        (.ok .conflict, removalDb installationId) := by
    unfold createIntent sqlBegin createIntentTx
    rw [if_pos hformed, hrefused]
  exact createMembershipIntent_of_created hpath hinput hcreated

def plainHmac (handle : String) : Bytes := utf8 handle

/-- The outsider's request closes the conversation, and the staff's own request meets a conflict
that it does not meet without it. -/
theorem outsiders_close_conversations :
    Outsider plainHmac sampleConversationId outsiderWorld (removalBy outsiderInstallationId) ∧
      (respondAll plainHmac lastBytes sampleKeys lenientChecks
        [removalBy outsiderInstallationId, removalBy staffInstallationId] outsiderWorld) =
          ([.created (.ok (.created (removalCreated outsiderInstallationId))),
            .created (.ok .conflict)], ⟨[], removalDb outsiderInstallationId⟩) ∧
        (respondAll plainHmac lastBytes sampleKeys lenientChecks [removalBy staffInstallationId]
          outsiderWorld) = ([.created (.ok (.created (removalCreated staffInstallationId)))],
            ⟨[], removalDb staffInstallationId⟩) ∧
          outsiderDb.conversations = [sampleConversation] ∧
            (removalDb outsiderInstallationId).conversations =
              [{ sampleConversation with state := .membershipPending }] := by
  have houtsider := respond_removal plainHmac outsiderInstallationId rfl rfl rfl
  have hstaff := respond_removal plainHmac staffInstallationId rfl rfl rfl
  refine ⟨⟨by decide +kernel, fun handle hnone => by cases hnone⟩, ?_, ?_, rfl, rfl⟩
  · rw [respondAll_cons houtsider, respondAll_cons (respond_again _ _), respondAll]
  · rw [respondAll_cons hstaff, respondAll]

/-- The outsider asks for a change without a target, and changes nothing. -/
theorem outsiders_leave_no_trace_unknown :
    (respondAll plainHmac lastBytes sampleKeys lenientChecks
      [.createMembershipIntent outsiderInstallationId sampleConversationId sampleEntropy
        ⟨.remove, outsiderInstallationId, none⟩, removalBy staffInstallationId] outsiderWorld).2 =
      (respondAll plainHmac lastBytes sampleKeys lenientChecks [removalBy staffInstallationId]
        outsiderWorld).2 := by
  refine (outsiders_leave_no_trace plainHmac lastBytes sampleKeys lenientChecks
    sampleConversationId outsiderWorld [(true, .createMembershipIntent outsiderInstallationId
      sampleConversationId sampleEntropy ⟨.remove, outsiderInstallationId, none⟩),
        (false, removalBy staffInstallationId)] ?_).1
  rintro (_ | ⟨first, _ | ⟨second, rest⟩⟩) request after hrequests
  · obtain ⟨hrequest, -⟩ := List.cons.inj hrequests
    obtain rfl := (Prod.mk.inj hrequest).2
    refine ⟨⟨by decide +kernel, fun handle hnone => by cases hnone⟩, ?_, trivial⟩
    rintro ⟨input, conversation, target, hinput, -, -, ⟨-, hmember, -⟩ | ⟨hadd, -⟩⟩
    · cases hinput
      exact absurd hmember (by decide +kernel)
    · cases hinput
      cases hadd
  · obtain ⟨-, hrest⟩ := List.cons.inj hrequests
    obtain ⟨hrequest, -⟩ := List.cons.inj hrest
    cases (Prod.mk.inj hrequest).1
  · have hlength := congrArg List.length hrequests
    simp only [List.length_append, List.length_cons, List.length_nil] at hlength
    omega

end JbChat.Http.MembershipRequests
