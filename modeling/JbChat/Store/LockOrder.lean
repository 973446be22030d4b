/- source: src/production/storage/membershipIntentStore.ts, externalProposalStore.ts,
     membershipCommitStore.ts, appendAuthority.ts, postgresDeliveryStore.ts
   digest: The rows that the membership transactions lock, in order, and who waits for whom. -/

import JbChat.Foundation.RowLocks
import JbChat.Store.MembershipSafety

/-!
Each statement that locks rows (`SELECT ... FOR UPDATE`, `UPDATE`, `DELETE`, the update of an
upsert) stands in the order of the source. A transaction decides by the rows as committed when a
statement returns, and its writes are those of the transaction as a whole. A refusal that throws
away what was written is a transaction given up, so only the checks that decide which rows are
locked next are repeated here.
-/

set_option autoImplicit false

namespace JbChat.Store.LockOrder

open Foundation.HashTrace
open Foundation.Transaction Foundation.GuardedRun Foundation.RowLocks Tables Provisioning LogWriter
open PolicyHeads Delivery.Snapshot Delivery.EnvelopeLog
open MembershipIntents ExternalProposals MembershipCommits MembershipModel MembershipRefinement
open MembershipSafety RotationSafety

section

/-- A row by the key of its table. -/
inductive Row where
  | conversation (conversationId : String)
  | intent (intentId : String)
  | grant (grantId : String)
  | proposal (proposalId : String)
  | keyPackage (keyPackageRef : Bytes)
  | membership (conversationId installationId : String)
  | usage (conversationId : String)
  | authority (conversationId : String)
  | welcome (conversationId : String) (commitPosition : Nat) (targetInstallationId : String)
  | rosterProjection (conversationId installationId : String)
  | recipientProjection (conversationId installationId : String)
  | policyHeadAnchor (conversationId : String)
  | sendGrant (conversationId installationId credentialId : String)
  | mailboxCounter (installationId : String)
  | senderFence (conversationId installationId : String)
deriving DecidableEq

variable (conversationId : String) (db : DeliveryDb)

def conversationRows : List Row :=
  (db.conversations.filter (isConversation conversationId)).map fun _ =>
    .conversation conversationId

def intentRows (intentId : String) : List Row :=
  (db.membershipIntents.filter fun row => decide (row.intentId = intentId)).map fun _ =>
    .intent intentId

def grantRowsOf (grantId : String) : List Row :=
  (db.admission.eligibilityGrants.filter fun row => decide (row.grantId = grantId)).map fun _ =>
    .grant grantId

def proposalRows (rows : List ExternalProposalRow) : List Row :=
  rows.map fun row => .proposal row.proposalId

def packageRows (rows : List KeyPackageRow) : List Row :=
  rows.map fun row => .keyPackage row.keyPackageRef

def membershipRows (rows : List MembershipRow) : List Row :=
  rows.map fun row => .membership row.conversationId row.installationId

def usageRows : List Row :=
  (db.usage.filter fun row => decide (row.conversationId = conversationId)).map fun _ =>
    .usage conversationId

/-- `FOR UPDATE OF a`, where the signing key is active and within its validity. -/
def logAuthorityRows (now : String) : List Row :=
  (activeLogKeys db conversationId now).map fun _ => .authority conversationId

def custodyRowsOf : List Row :=
  (db.custody.filter fun row => decide (row.conversationId = conversationId)).map fun _ =>
    .authority conversationId

def welcomeRows (targetInstallationId : String) : List Row :=
  (db.admission.welcomes.filter fun row => decide (row.conversationId = conversationId ∧
    row.targetInstallationId = targetInstallationId)).map fun row =>
      .welcome row.conversationId row.commitPosition row.targetInstallationId

def rosterRowsOf : List Row :=
  (db.rosterProjections.filter fun row => decide (row.conversationId = conversationId)).map
    fun row => .rosterProjection row.conversationId row.installationId

def recipientRowsOf : List Row :=
  (db.recipientProjections.filter fun row => decide (row.conversationId = conversationId)).map
    fun row => .recipientProjection row.conversationId row.installationId

def anchorRowsOf : List Row :=
  (anchorsOf db conversationId).map fun _ => .policyHeadAnchor conversationId

def sendGrantRows (selected : LockedConversationSendGrant → Bool) : List Row :=
  (db.sendGrants.filter fun row => decide (row.conversationId = conversationId) &&
    selected row).map fun row => .sendGrant row.conversationId row.installationId row.credentialId

def mailboxRows (installationId : String) : List Row :=
  (db.mailboxCounters.filter fun row => decide (row.id = installationId)).map fun _ =>
    .mailboxCounter installationId

/-- Every fence of the conversation is deleted or rewritten. -/
def fenceRows : List Row :=
  (db.senderFences.filter fun row => decide (row.conversationId = conversationId)).map fun row =>
    .senderFence row.conversationId row.installationId

end

inductive Request where
  | createIntent (entropy : IntentEntropy) (input : CreateIntentInput)
  | cancelIntent (intentId requestedByInstallationId : String)
  | recordProposal (signer : LogSigner) (entropy : ProposalEntropy) (input : RecordProposalInput)
  | consumeCommit (signer : LogSigner) (entropy : CommitEntropy) (input : ConsumeCommitInput)

def Request.intentId : Request → Option String
  | .createIntent _ _ => none
  | .cancelIntent intentId _ => some intentId
  | .recordProposal _ _ input => some input.intentId
  | .consumeCommit _ _ input => some input.intentId

def Request.commits : Request → Bool
  | .consumeCommit _ _ _ => true
  | _ => false

section

variable (H : HashFunction) (keys : AuthorityDerivations)

abbrev LockScript := Script DeliveryDb Row

def refreshScript (conversationId : String) (last : LockScript) : LockScript :=
  .lock (custodyRowsOf conversationId) fun locked _ => match locked with
    | [] => last
    | _ :: _ => .lockEach [fenceRows conversationId, custodyRowsOf conversationId] last

def lockedRefs (locked : List Row) : List Bytes :=
  locked.filterMap fun row => match row with
    | .keyPackage ref => some ref
    | _ => none

def createIntentWrite (entropy : IntentEntropy) (input : CreateIntentInput) (locked : List Row)
    (db : DeliveryDb) : DeliveryDb :=
  (createIntent H keys { entropy with lockedPackages := lockedRefs locked } input db).2

/-- The writes of a creation, from the taken KeyPackage on. -/
def storeIntentScript (entropy : IntentEntropy) (input : CreateIntentInput) (locked : List Row)
    (package : Option KeyPackageRow) : LockScript :=
  .lockEach [fun _ => packageRows package.toList, conversationRows input.conversationId]
    (refreshScript input.conversationId (.commit (createIntentWrite H keys entropy input locked)))

/-- The oldest KeyPackage that nobody holds is locked, and nothing is waited for. -/
def createAdditionScript (entropy : IntentEntropy) (input : CreateIntentInput)
    (conversation : ConversationRow) (target : InstallationRow) (capability : GrantCapability) :
    LockScript :=
  .skipLocked
    (fun locked db => (availablePackage db entropy.now input (lockedRefs locked)).map fun row =>
      .keyPackage row.keyPackageRef)
    fun locked db => match availablePackage db entropy.now input (lockedRefs locked) with
      | none => .commit id
      | some package =>
        match issueTargetRoleCredential keys input conversation target capability entropy.now db
          with
        | .ok (.ok _) => storeIntentScript H keys entropy input locked (some package)
        | _ => .commit (createIntentWrite H keys entropy input locked)

def createIntentScript (entropy : IntentEntropy) (input : CreateIntentInput) : LockScript :=
  if ¬ input.wellFormed then .commit id
  else .lock (conversationRows input.conversationId) fun locked db =>
    match locked, intentConversation db input, intentTarget db input with
    | _ :: _, .ok conversation, .ok target =>
      match input.operation, input.grantId with
      | .add, none => .commit id
      | .add, some grantId => .lock (grantRowsOf · grantId) fun _ db =>
        match additionGrant db entropy.now input conversation.kind target with
        | .error _ => .commit id
        | .ok capability =>
          createAdditionScript H keys entropy input conversation target capability
      | _, _ => match removalTarget db input with
          | .error _ => .commit id
          | .ok () => storeIntentScript H keys entropy input [] none
    | _, _, _ => .commit id

/-- The conversation that an ended intent frees: pending, and without another live intent. -/
def freedRows (intentId conversationId : String) (db : DeliveryDb) : List Row :=
  let closed := setIntentState (fun row => decide (row.intentId = intentId)) .cancelled db
  if hasLiveIntent closed conversationId then []
  else (db.conversations.filter fun row => decide (row.conversationId = conversationId ∧
    row.state = .membershipPending)).map fun _ => .conversation conversationId

def cancelIntentScript (intentId requestedByInstallationId : String) : LockScript :=
  if ¬ isLowercaseUuid intentId then .commit id
  else .lock (intentRows · intentId) fun locked db =>
    match locked, cancellableIntent db intentId requestedByInstallationId with
    | _ :: _, some intent =>
      let last := refreshScript intent.conversationId
        (.commit fun db => (cancelIntent H intentId requestedByInstallationId db).2)
      .lock (intentRows · intentId) fun _ _ =>
        if intent.operation = .remove then last
        else .lock (freedRows intentId intent.conversationId) fun _ _ => last
    | _, _ => .commit id

def recordProposalScript (signer : LogSigner) (entropy : ProposalEntropy)
    (input : RecordProposalInput) : LockScript :=
  if ¬ input.wellFormed then .commit id
  else .lock (intentRows · input.intentId) fun locked db =>
    match locked, proposableIntent db entropy.now input.intentId with
    | _ :: _, .ok intent => .lock (conversationRows intent.conversationId) fun locked db =>
      match locked, admitProposal db entropy.now input with
      | _ :: _, .ok _ => .lock (logAuthorityRows intent.conversationId · entropy.now)
          fun _ _ => .lockEach
            [conversationRows intent.conversationId, (intentRows · input.intentId)]
            (refreshScript intent.conversationId
              (.commit fun db => (recordProposal H signer entropy input db).2))
      | _, _ => .commit id
    | _, _ => .commit id

/-- What a Commit updates after its last check of the custody row. The members who get an item
are those of the change. -/
def storeCommitStatements (input : ConsumeCommitInput) (conversationId : String)
    (intent : MembershipIntentRow) (proposal : ExternalProposalRow) (members : List String) :
    List (DeliveryDb → List Row) :=
  let target := intent.targetInstallationId
  let consumed := consumedProposals input proposal
  let boundary : List (DeliveryDb → List Row) :=
    if intent.operation = .add then
      [fun db => packageRows (db.admission.keyPackages.filter fun row =>
          decide (row.takenByIntentId = some input.intentId)),
        fun db => welcomeRows conversationId db target]
    else []
  let revoked (db : DeliveryDb) : List Row :=
    if intent.operation = .add then []
    else sendGrantRows conversationId db fun row => decide (row.installationId = target)
  let reissued (db : DeliveryDb) : List Row :=
    sendGrantRows conversationId db fun row => decide (if intent.operation = .add then
      row.installationId ≠ target ∨ some row.credentialId = input.targetCredentialId
    else row.installationId ≠ target ∧ row.state = .active)
  [fun db => proposalRows (db.admission.externalProposals.filter fun row =>
      consumed.any fun entry => decide (entry.proposalId = row.proposalId)),
    (intentRows · input.intentId)] ++ boundary ++
    [fun db => membershipRows (db.memberships.filter (isMember conversationId target)),
      rosterRowsOf conversationId, recipientRowsOf conversationId,
      conversationRows conversationId, usageRows conversationId, revoked,
      anchorRowsOf conversationId, reissued] ++
    members.map fun installationId db => mailboxRows db installationId

/-- The members after the change, in the order of their mailboxes. -/
def membersAfter (db : DeliveryDb) (conversationId : String) (intent : MembershipIntentRow) :
    List String :=
  let others := (fanoutInstallations db conversationId).filter
    fun installationId => decide (installationId ≠ intent.targetInstallationId)
  if intent.operation = .add then
    (intent.targetInstallationId :: others).insertionSort (· ≤ ·)
  else others

/-- The KeyPackage and the memberships, or the one membership that ends. -/
def targetStatements (input : ConsumeCommitInput) (conversationId : String)
    (intent : MembershipIntentRow) : List (DeliveryDb → List Row) :=
  if intent.operation = .add then
    [fun db => packageRows (db.admission.keyPackages.filter fun row => decide (
        row.takenByIntentId = some input.intentId ∧ row.state = .taken)),
      fun db => membershipRows (db.memberships.filter fun row =>
        decide (row.conversationId = conversationId))]
  else [fun db => membershipRows ((liveMembers db conversationId).filter fun row =>
    decide (row.installationId = intent.targetInstallationId))]

/-- The rows that each offered pair resolves to. -/
def pairStatements (now : String) (input : ConsumeCommitInput) (conversationId : String) :
    List (DeliveryDb → List Row) :=
  input.mandatoryProposals.map fun pair db =>
    proposalRows (db.admission.externalProposals.filter fun row => decide (
      row.proposalId = pair.proposalId ∧ row.proposalHash = pair.proposalHash ∧
      row.conversationId = conversationId ∧ now < row.expiresAt))

def consumeCommitScript (signer : LogSigner) (entropy : CommitEntropy)
    (input : ConsumeCommitInput) (db : DeliveryDb) : LockScript :=
  let now := entropy.now
  match input.wellFormed H, onlyRow (db.membershipIntents.filter fun row =>
      decide (row.intentId = input.intentId)) with
  | true, some peeked =>
    let conversationId := peeked.conversationId
    .lock (conversationRows conversationId) fun locked db =>
      match locked, commitConversation db input with
      | _ :: _, .ok _ => .lock (intentRows · input.intentId) fun locked _ =>
        .lock (fun db => proposalRows (liveProposals db now input)) fun _ db =>
          match locked, onlyRow (db.membershipIntents.filter fun row =>
              decide (row.intentId = input.intentId)) with
          | [], _ | _, none => .commit id
          | _ :: _, some intent =>
            match commitProposal db now input intent with
            | .error _ => .commit id
            | .ok proposal => .lockEach
                (pairStatements now input conversationId ++
                  targetStatements input conversationId intent ++ [usageRows conversationId])
                (.lock (logAuthorityRows conversationId · now) fun _ db =>
                  match admitCommit db now input with
                  | .error _ => .commit id
                  | .ok _ => .lockEach
                      (storeCommitStatements input conversationId intent proposal
                        (membersAfter db conversationId intent))
                      (refreshScript conversationId (.commit fun db =>
                        (consumeCommit keys H signer entropy input db).2)))
      | _, _ => .commit id
  | _, _ => .commit id

def Request.script : Request → DeliveryDb → LockScript
  | .createIntent entropy input, _ => createIntentScript H keys entropy input
  | .cancelIntent intentId requester, _ => cancelIntentScript H intentId requester
  | .recordProposal signer entropy input, _ => recordProposalScript H signer entropy input
  | .consumeCommit signer entropy input, db =>
    consumeCommitScript H keys signer entropy input db

end

def Request.On (conversationId : String) (request : Request) (db : DeliveryDb) : Prop :=
  (∀ entropy input, request = .createIntent entropy input →
    input.conversationId = conversationId) ∧
  ∀ row ∈ db.membershipIntents, some row.intentId = request.intentId →
    row.conversationId = conversationId

def IsRemoval (intentId : String) (db : DeliveryDb) : Prop :=
  (∃ row ∈ db.membershipIntents, row.intentId = intentId) ∧
    ∀ row ∈ db.membershipIntents, row.intentId = intentId → row.operation = .remove

/-- A Commit does not run beside the recording of its proposal, nor beside the cancellation of its
intent unless that is a removal. -/
def Request.Beside (first second : Request) (db : DeliveryDb) : Prop :=
  match first, second with
  | .consumeCommit _ _ input, .recordProposal _ _ proposal => proposal.intentId ≠ input.intentId
  | .consumeCommit _ _ input, .cancelIntent intentId _ =>
    intentId = input.intentId → IsRemoval intentId db
  | _, _ => True

/-- What no transaction on the conversation undoes: intents keep their names, operations and
conversations, and new ones have new names. -/
structure Grows (conversationId : String) (before after : DeliveryDb) : Prop where
  keeps : ∀ row ∈ before.membershipIntents, ∃ kept ∈ after.membershipIntents,
    kept.intentId = row.intentId ∧ kept.operation = row.operation
  origin : ∀ row ∈ after.membershipIntents, (∃ old ∈ before.membershipIntents,
      old.intentId = row.intentId ∧ old.conversationId = row.conversationId ∧
        old.operation = row.operation) ∨
    (row.conversationId = conversationId ∧
      ∀ old ∈ before.membershipIntents, old.intentId ≠ row.intentId)

/-- When a row may be asked for. -/
def askRule (conversationId : String) (request : Request) (db : DeliveryDb)
    (held : Row → Prop) : Row → Prop
  | .conversation id => id = conversationId ∧ ¬ held (.authority conversationId) ∧
      ∀ intentId requester, request = .cancelIntent intentId requester →
        ∃ row ∈ db.membershipIntents, row.intentId = intentId ∧ row.operation ≠ .remove
  | .intent id => request.intentId = some id ∧ ¬ held (.authority conversationId) ∧
      (request.commits = true ↔ held (.conversation conversationId))
  | .authority id => id = conversationId
  | .senderFence _ _ => held (.authority conversationId)
  | _ => held (.conversation conversationId)

def heldRule (conversationId : String) (request : Request) (held : Row → Prop) : Row → Prop
  | .conversation id => id = conversationId
  | .intent id => request.intentId = some id ∧
      (request.commits = true → held (.conversation conversationId))
  | .authority id => id = conversationId
  | .senderFence _ _ => held (.authority conversationId)
  | _ => held (.conversation conversationId)

section

variable {H : HashFunction} {keys : AuthorityDerivations} {conversationId : String}
  {db after : DeliveryDb}

theorem Grows.of_same (h : after.membershipIntents = db.membershipIntents) :
    Grows conversationId db after :=
  ⟨fun row hrow => ⟨row, h ▸ hrow, rfl, rfl⟩, fun row hrow => Or.inl ⟨row, h ▸ hrow, rfl, rfl, rfl⟩⟩

theorem Grows.of_view (h : membershipView after = membershipView db) :
    Grows conversationId db after :=
  .of_same (congrArg MembershipView.intents h)

theorem Grows.trans {last : DeliveryDb} (first : Grows conversationId db after)
    (second : Grows conversationId after last) : Grows conversationId db last := by
  refine ⟨fun row hrow => ?_, fun row hrow => ?_⟩
  · obtain ⟨kept, hkept, hid, hoperation⟩ := first.keeps row hrow
    obtain ⟨final, hfinal, hfinalId, hfinalOperation⟩ := second.keeps kept hkept
    exact ⟨final, hfinal, hfinalId.trans hid, hfinalOperation.trans hoperation⟩
  · rcases second.origin row hrow with ⟨mid, hmid, hid, hconversation, hoperation⟩ | ⟨hnew, hfresh⟩
    · rcases first.origin mid hmid with ⟨old, hold, h⟩ | ⟨hnew, hfresh⟩
      · exact Or.inl ⟨old, hold, h.1.trans hid, h.2.1.trans hconversation, h.2.2.trans hoperation⟩
      · exact Or.inr ⟨hconversation ▸ hnew, fun old hold => hid ▸ hfresh old hold⟩
    · refine Or.inr ⟨hnew, fun old hold hsame => ?_⟩
      obtain ⟨kept, hkept, hid, -⟩ := first.keeps old hold
      exact hfresh kept hkept (hid.trans hsame)

theorem Grows.of_updateWhere {selected : MembershipIntentRow → Bool}
    {change : MembershipIntentRow → MembershipIntentRow}
    (h : after.membershipIntents = updateWhere selected change db.membershipIntents)
    (same : ∀ row, (change row).intentId = row.intentId ∧
      (change row).conversationId = row.conversationId ∧ (change row).operation = row.operation) :
    Grows conversationId db after := by
  refine ⟨fun row hrow => ?_, fun row hrow => ?_⟩
  · rw [h]
    cases hselected : selected row with
    | true => exact ⟨change row, mem_updateWhere.mpr (Or.inl ⟨row, hrow, hselected, rfl⟩),
        (same row).1, (same row).2.2⟩
    | false => exact ⟨row, mem_updateWhere.mpr (Or.inr ⟨hrow, hselected⟩), rfl, rfl⟩
  · rw [h] at hrow
    rcases mem_updateWhere.mp hrow with ⟨old, hold, -, rfl⟩ | ⟨hold, -⟩
    · obtain ⟨hid, hconversation, hoperation⟩ := same old
      exact Or.inl ⟨old, hold, hid.symm, hconversation.symm, hoperation.symm⟩
    · exact Or.inl ⟨row, hold, rfl, rfl, rfl⟩

theorem Grows.of_step {move : Move} (step : Step (membershipView db) move (membershipView after))
    (created : ∀ intent, move = .create intent → intent.conversationId = conversationId) :
    Grows conversationId db after := by
  have of_view {view : MembershipView} (h : membershipView after = view) :
      after.membershipIntents = view.intents := by
    rw [← h]
    rfl
  generalize hafter : membershipView after = view at step
  cases step with
  | quiet => exact .of_same (of_view hafter)
  | @create now intent slot found same active requested fresh available =>
    have hrows : after.membershipIntents = db.membershipIntents ++ [intent] := of_view hafter
    refine ⟨fun row hrow => ⟨row, ?_, rfl, rfl⟩, fun row hrow => ?_⟩
    · rw [hrows]
      exact List.mem_append_left _ hrow
    · rw [hrows] at hrow
      rcases List.mem_append.mp hrow with hold | hnew
      · exact Or.inl ⟨row, hold, rfl, rfl, rfl⟩
      · obtain rfl := List.mem_singleton.mp hnew
        exact Or.inr ⟨created _ rfl, fresh⟩
  | close ended live =>
    exact .of_updateWhere (of_view hafter) fun _ => ⟨rfl, rfl, rfl⟩
  | propose found waiting seen same =>
    exact .of_updateWhere (of_view hafter) fun _ => ⟨rfl, rfl, rfl⟩
  | commit envelope now found proposed seen same pending =>
    exact .of_updateWhere (of_view hafter) fun _ => ⟨rfl, rfl, rfl⟩
  | append seen active => exact .of_same (of_view hafter)

theorem createIntent_grows {entropy : IntentEntropy} {input : CreateIntentInput}
    (on : input.conversationId = conversationId) (locked : List Row) (db : DeliveryDb) :
    Grows conversationId db (createIntentWrite H keys entropy input locked db) := by
  rcases createIntent_step { entropy with lockedPackages := lockedRefs locked } input db with
    ⟨-, hview⟩ | ⟨intent, -, hconversation, -, -, -, -, hstep⟩
  · exact .of_view hview
  · refine .of_step hstep fun created hcreated => ?_
    obtain rfl := Move.create.inj hcreated
    exact hconversation.trans on

theorem cancelIntent_grows (intentId requester : String) (db : DeliveryDb) :
    Grows conversationId db (cancelIntent H intentId requester db).2 := by
  rcases cancelIntent_step intentId requester db with hview | ⟨intent, -, -, hstep⟩
  · exact .of_view hview
  · exact .of_step hstep fun _ h => (by cases h)

theorem recordProposal_grows (signer : LogSigner) (entropy : ProposalEntropy)
    (input : RecordProposalInput) (db : DeliveryDb) :
    Grows conversationId db (recordProposal H signer entropy input db).2 := by
  rcases recordProposal_step signer entropy input db with hview | ⟨intent, -, hstep⟩
  · exact .of_view hview
  · exact .of_step hstep fun _ h => (by cases h)

theorem consumeCommit_grows (signer : LogSigner) (entropy : CommitEntropy)
    (input : ConsumeCommitInput) (db : DeliveryDb) :
    Grows conversationId db (consumeCommit keys H signer entropy input db).2 := by
  rcases consumeCommit_step signer entropy input db with
    hview | ⟨value, intent, position, -, -, hstep, -⟩
  · exact .of_view hview
  · exact .of_step hstep fun _ h => (by cases h)

theorem IsRemoval.grow {intentId : String} (grows : Grows conversationId db after)
    (h : IsRemoval intentId db) : IsRemoval intentId after := by
  obtain ⟨⟨row, hrow, hid⟩, hall⟩ := h
  obtain ⟨kept, hkept, hsame, -⟩ := grows.keeps row hrow
  refine ⟨⟨kept, hkept, hsame.trans hid⟩, fun other hother hotherId => ?_⟩
  rcases grows.origin other hother with ⟨old, hold, holdId, -, hoperation⟩ | ⟨-, hnew⟩
  · rw [← hoperation]
    exact hall old hold (holdId.trans hotherId)
  · exact absurd (hid.trans hotherId.symm) (hnew row hrow)

theorem Request.On.grow {request : Request} (grows : Grows conversationId db after)
    (on : request.On conversationId db) : request.On conversationId after := by
  refine ⟨on.1, fun row hrow hid => ?_⟩
  rcases grows.origin row hrow with ⟨old, hold, holdId, hconversation, -⟩ | ⟨hnew, -⟩
  · rw [← hconversation]
    exact on.2 old hold (holdId.symm ▸ hid)
  · exact hnew

theorem Request.Beside.grow {first second : Request} (grows : Grows conversationId db after)
    (h : first.Beside second db) : first.Beside second after := by
  unfold Request.Beside at h ⊢
  split at h
  · exact h
  · exact fun hsame => (h hsame).grow grows
  · trivial

theorem askRule_grow {request : Request} {held : Row → Prop} {row : Row}
    (grows : Grows conversationId db after) (h : askRule conversationId request db held row) :
    askRule conversationId request after held row := by
  cases row with
  | conversation id =>
    obtain ⟨hid, hfree, hkind⟩ := h
    refine ⟨hid, hfree, fun intentId requester hrequest => ?_⟩
    obtain ⟨old, hold, holdId, hoperation⟩ := hkind intentId requester hrequest
    obtain ⟨kept, hkept, hsame, hkeptOperation⟩ := grows.keeps old hold
    exact ⟨kept, hkept, hsame.trans holdId, hkeptOperation ▸ hoperation⟩
  | _ => exact h

end

section

variable (conversationId : String)

/-- The order in which the transactions on a conversation lock their rows. -/
def lockDiscipline : Discipline DeliveryDb Row Request where
  sees request db := request.On conversationId db
  grows := Grows conversationId
  rule := askRule conversationId
  kept := heldRule conversationId
  compatible := Request.Beside
  grows_refl _ := .of_same rfl
  grows_trans first second := first.trans second
  sees_grows grows on := on.grow grows
  rule_grows grows h := askRule_grow grows h
  compatible_grows grows h := h.grow grows
  rule_kept {request db held row} h := by
    cases row with
    | conversation id => exact h.1
    | intent id => exact ⟨h.1, h.2.2.mp⟩
    | _ => exact h
  kept_mono {request row held more} hmore h := by
    cases row with
    | conversation id => exact h
    | intent id => exact ⟨h.1, fun hcommits => hmore _ (h.2 hcommits)⟩
    | authority id => exact h
    | _ => exact hmore _ h

variable {conversationId} {H : HashFunction} {keys : AuthorityDerivations} {request : Request}
  {held : Row → Prop} {last : LockScript} {db : DeliveryDb}

theorem mem_custodyRowsOf {db : DeliveryDb} {row : Row}
    (h : row ∈ custodyRowsOf conversationId db) : row = .authority conversationId := by
  obtain ⟨-, -, rfl⟩ := List.mem_map.mp h
  rfl

theorem mem_conversationRows {db : DeliveryDb} {row : Row}
    (h : row ∈ conversationRows conversationId db) : row = .conversation conversationId := by
  obtain ⟨-, -, rfl⟩ := List.mem_map.mp h
  rfl

theorem mem_intentRows {intentId : String} {db : DeliveryDb} {row : Row}
    (h : row ∈ intentRows db intentId) : row = .intent intentId := by
  obtain ⟨-, -, rfl⟩ := List.mem_map.mp h
  rfl

theorem follows_refresh
    (ends : ∀ later, request.On conversationId later → Grows conversationId db later →
      ∀ now : Row → Prop, (∀ r, held r → now r) →
        (lockDiscipline conversationId).Follows request now later last) :
    (lockDiscipline conversationId).Follows request held db
      (refreshScript conversationId last) := by
  refine ⟨fun row hrow now _ _ _ => ?_, fun later on hgrows => ?_⟩
  · rw [mem_custodyRowsOf hrow]
    rfl
  · cases hrows : custodyRowsOf conversationId db with
    | nil => exact ends later on hgrows _ fun r hr => Or.inl hr
    | cons first others =>
      have hfirst : first ∈ custodyRowsOf conversationId db := hrows ▸ List.mem_cons_self
      obtain rfl := mem_custodyRowsOf hfirst
      refine Discipline.follows_lockEach on (fun rows hrows _ _ _ row hrow => ?_)
        fun last on hmore now hnow => ends last on (hgrows.trans hmore) now
          fun r hr => hnow r (Or.inl hr)
      rcases List.mem_cons.mp hrows with rfl | hrows
      · obtain ⟨fence, -, rfl⟩ := List.mem_map.mp hrow
        exact Or.inr fun now hnow => hnow _ (Or.inr List.mem_cons_self)
      · obtain rfl := List.mem_singleton.mp hrows
        rw [mem_custodyRowsOf hrow]
        exact Or.inl (Or.inr List.mem_cons_self)

theorem mem_packageRows {rows : List KeyPackageRow} {row : Row} (h : row ∈ packageRows rows)
    (db : DeliveryDb) (hheld : held (.conversation conversationId)) :
    askRule conversationId request db held row := by
  obtain ⟨package, -, rfl⟩ := List.mem_map.mp h
  exact hheld

theorem follows_storeIntent {entropy : IntentEntropy} {input : CreateIntentInput}
    (sees : request.On conversationId db) (locked : List Row) (package : Option KeyPackageRow)
    (on : input.conversationId = conversationId) (hheld : held (.conversation conversationId)) :
    (lockDiscipline conversationId).Follows request held db
      (storeIntentScript H keys entropy input locked package) := by
  unfold storeIntentScript
  rw [on]
  refine Discipline.follows_lockEach sees (fun rows hrows _ _ _ row hrow => ?_) fun _ _ _ _ _ =>
    follows_refresh fun later _ _ _ _ => createIntent_grows on locked later
  rcases List.mem_cons.mp hrows with rfl | hrows
  · exact Or.inr fun now hnow => mem_packageRows hrow _ (hnow _ hheld)
  · obtain rfl := List.mem_singleton.mp hrows
    rw [mem_conversationRows hrow]
    exact Or.inl hheld

theorem follows_createAddition {entropy : IntentEntropy} {input : CreateIntentInput}
    (conversation : ConversationRow) (target : InstallationRow) (capability : GrantCapability)
    (on : input.conversationId = conversationId) (hheld : held (.conversation conversationId)) :
    (lockDiscipline conversationId).Follows request held db
      (createAdditionScript H keys entropy input conversation target capability) := by
  refine fun locked => ⟨fun row hrow => ?_, fun later sees _ now hnow _ => ?_⟩
  · obtain ⟨package, -, rfl⟩ := Option.mem_map.mp hrow
    exact hheld
  · dsimp only
    split
    · exact .of_same rfl
    · split
      · exact follows_storeIntent sees _ _ on (hnow _ hheld)
      · exact createIntent_grows on locked later

theorem follows_createIntent (entropy : IntentEntropy) (input : CreateIntentInput)
    (on : input.conversationId = conversationId) :
    (lockDiscipline conversationId).Follows (.createIntent entropy input) (fun _ => False) db
      (createIntentScript H keys entropy input) := by
  unfold createIntentScript
  split
  · exact .of_same rfl
  rw [on]
  refine ⟨fun row hrow now _ hnow _ => ?_, fun later sees _ => ?_⟩
  · rw [mem_conversationRows hrow]
    refine ⟨rfl, fun hauthority => ?_, nofun⟩
    rcases hnow _ hauthority with h | h
    · exact h
    · cases mem_conversationRows h
  dsimp only
  split
  · next first others conversation target hrows _ _ =>
      have hfirst : first ∈ conversationRows conversationId db := hrows ▸ List.mem_cons_self
      have hheld : Row.conversation conversationId ∈ conversationRows conversationId db :=
        mem_conversationRows hfirst ▸ hfirst
      split
      · exact .of_same rfl
      · refine ⟨fun row hrow now hmore _ _ => ?_, fun later _ _ => ?_⟩
        · obtain ⟨grant, -, rfl⟩ := List.mem_map.mp hrow
          exact hmore _ (Or.inr hheld)
        · dsimp only
          split
          · exact .of_same rfl
          · exact follows_createAddition _ _ _ on (Or.inl (Or.inr hheld))
      · split
        · exact .of_same rfl
        · exact follows_storeIntent sees _ _ on (Or.inr hheld)
  · exact .of_same rfl

theorem ask_intent {intentId : String} (db : DeliveryDb) (names : request.intentId = some intentId)
    (other : request.commits = false) {now : Row → Prop}
    (honly : ∀ r, now r → r = .intent intentId) :
    askRule conversationId request db now (.intent intentId) := by
  refine ⟨names, fun h => (nomatch honly _ h), ?_⟩
  rw [other]
  exact ⟨nofun, fun h => (nomatch honly _ h)⟩

theorem follows_cancelIntent (intentId requester : String) :
    (lockDiscipline conversationId).Follows (.cancelIntent intentId requester) (fun _ => False) db
      (cancelIntentScript H intentId requester) := by
  unfold cancelIntentScript
  split
  · exact .of_same rfl
  refine ⟨fun row hrow now _ hnow _ => ?_, fun later on _ => ?_⟩
  · rw [mem_intentRows hrow]
    exact ask_intent db rfl rfl fun r hr => mem_intentRows ((hnow r hr).resolve_left id)
  dsimp only
  split
  rotate_left
  · exact .of_same rfl
  next intent _ hintent =>
  obtain ⟨hfound, -⟩ := cancellableIntent_eq_some hintent
  have hmem := List.mem_filter.mp (hfound ▸ List.mem_singleton_self intent)
  have hid : intent.intentId = intentId := of_decide_eq_true hmem.2
  rw [on.2 intent hmem.1 (congrArg some hid)]
  have hlast {held : Row → Prop} {db : DeliveryDb} :
      (lockDiscipline conversationId).Follows (.cancelIntent intentId requester) held db
        (refreshScript conversationId
          (.commit fun db => (cancelIntent H intentId requester db).2)) :=
    follows_refresh fun last _ _ _ _ => cancelIntent_grows intentId requester last
  have honly {r : Row} (h : (False ∨ r ∈ intentRows db intentId) ∨
      r ∈ intentRows later intentId) : r = .intent intentId := by
    rcases h with (h | h) | h
    · exact h.elim
    · exact mem_intentRows h
    · exact mem_intentRows h
  refine ⟨fun row hrow now hmore hnow _ => ?_, fun last _ hgrows => ?_⟩
  · rw [mem_intentRows hrow]
    exact ask_intent db rfl rfl fun r hr => honly (hnow r hr)
  split
  · exact hlast
  · next hoperation =>
    refine ⟨fun row hrow now _ hnow _ => ?_, fun _ _ _ => hlast⟩
    have hfreed {r : Row} (h : r ∈ freedRows intentId conversationId last) :
        r = .conversation conversationId := by
      unfold freedRows at h
      dsimp only at h
      split at h
      · cases h
      · obtain ⟨-, -, rfl⟩ := List.mem_map.mp h
        rfl
    rw [hfreed hrow]
    refine ⟨rfl, fun hauthority => ?_, ?_⟩
    · rcases hnow _ hauthority with h | h
      · cases honly h
      · cases hfreed h
    · intro _ _ hrequest
      obtain ⟨rfl, rfl⟩ := Request.cancelIntent.inj hrequest
      obtain ⟨kept, hkept, hkeptId, hkeptOperation⟩ := hgrows.keeps intent hmem.1
      exact ⟨kept, hkept, hkeptId.trans hid, hkeptOperation ▸ hoperation⟩

theorem follows_recordProposal (signer : LogSigner) (entropy : ProposalEntropy)
    (input : RecordProposalInput) :
    (lockDiscipline conversationId).Follows (.recordProposal signer entropy input)
      (fun _ => False) db (recordProposalScript H signer entropy input) := by
  unfold recordProposalScript
  split
  · exact .of_same rfl
  refine ⟨fun row hrow now _ hnow _ => ?_, fun later on _ => ?_⟩
  · rw [mem_intentRows hrow]
    exact ask_intent db rfl rfl fun r hr => mem_intentRows ((hnow r hr).resolve_left id)
  dsimp only
  split
  rotate_left
  · exact .of_same rfl
  next first others intent hrows hintent =>
  obtain ⟨hmem, hid, -⟩ := proposableIntent_eq_ok hintent
  have hfirst : first ∈ intentRows db input.intentId := hrows ▸ List.mem_cons_self
  have hintent : Row.intent input.intentId ∈ intentRows db input.intentId :=
    mem_intentRows hfirst ▸ hfirst
  rw [on.2 intent hmem (congrArg some hid)]
  have honly {r : Row} (h : False ∨ r ∈ intentRows db input.intentId) :
      r = .intent input.intentId := mem_intentRows (h.resolve_left id)
  refine ⟨fun row hrow now _ hnow _ => ?_, fun last _ _ => ?_⟩
  · rw [mem_conversationRows hrow]
    refine ⟨rfl, fun hauthority => ?_, nofun⟩
    rcases hnow _ hauthority with h | h
    · cases honly h
    · cases mem_conversationRows h
  dsimp only
  split
  · next first others _ hrows _ =>
    have hfirst : first ∈ conversationRows conversationId later := hrows ▸ List.mem_cons_self
    have hheld : Row.conversation conversationId ∈ conversationRows conversationId later :=
      mem_conversationRows hfirst ▸ hfirst
    refine ⟨fun row hrow now _ _ _ => ?_, fun signing on _ => ?_⟩
    · obtain ⟨-, -, rfl⟩ := List.mem_map.mp hrow
      rfl
    refine Discipline.follows_lockEach on (fun rows hrows final _ _ row hrow => ?_)
      fun _ _ _ _ _ => follows_refresh fun final _ _ _ _ =>
        recordProposal_grows signer entropy input final
    rcases List.mem_cons.mp hrows with rfl | hrows
    · rw [mem_conversationRows hrow]
      exact Or.inl (Or.inl (Or.inr hheld))
    · obtain rfl := List.mem_singleton.mp hrows
      rw [mem_intentRows hrow]
      exact Or.inl (Or.inl (Or.inl (Or.inr hintent)))
  · exact .of_same rfl

/-- The rows that are only ever asked for under the lock of the conversation. -/
def Row.isInner : Row → Bool
  | .conversation _ | .intent _ | .authority _ | .senderFence _ _ => false
  | _ => true

theorem ask_inner {row : Row} (inner : row.isInner = true)
    (hheld : held (.conversation conversationId)) :
    askRule conversationId request db held row := by
  cases row with
  | conversation | intent | authority | senderFence => cases inner
  | _ => exact hheld

/-- An inner row, or one that a consumption has locked by then. -/
def Consumed (conversationId intentId : String) (rows : DeliveryDb → List Row) : Prop :=
  ∀ db, ∀ row ∈ rows db,
    row.isInner = true ∨ row = .intent intentId ∨ row = .conversation conversationId

theorem consumed_of_map {α : Type} {intentId : String} {row : α → Row}
    (inner : ∀ a, (row a).isInner = true) (rows : DeliveryDb → List α) :
    Consumed conversationId intentId fun db => (rows db).map row := by
  intro db found hfound
  obtain ⟨a, -, rfl⟩ := List.mem_map.mp hfound
  exact Or.inl (inner a)

theorem storeCommitStatements_consumed {input : ConsumeCommitInput} {intent : MembershipIntentRow}
    {proposal : ExternalProposalRow} {members : List String} {rows : DeliveryDb → List Row}
    (h : rows ∈ storeCommitStatements input conversationId intent proposal members) :
    Consumed conversationId input.intentId rows := by
  unfold storeCommitStatements at h
  dsimp only at h
  rcases List.mem_append.mp h with h | h
  · rcases List.mem_append.mp h with h | h
    · rcases List.mem_append.mp h with h | h
      · simp only [List.mem_cons, List.not_mem_nil, or_false] at h
        rcases h with rfl | rfl
        · exact consumed_of_map (fun _ => rfl) _
        · exact fun db row hrow => Or.inr (Or.inl (mem_intentRows hrow))
      · split at h
        · simp only [List.mem_cons, List.not_mem_nil, or_false] at h
          rcases h with rfl | rfl
          · exact consumed_of_map (fun _ => rfl) _
          · exact consumed_of_map (fun _ => rfl) _
        · cases h
    · simp only [List.mem_cons, List.not_mem_nil, or_false] at h
      rcases h with rfl | rfl | rfl | rfl | rfl | rfl | rfl | rfl
      · exact consumed_of_map (fun _ => rfl) _
      · exact consumed_of_map (fun _ => rfl) _
      · exact consumed_of_map (fun _ => rfl) _
      · exact fun db row hrow => Or.inr (Or.inr (mem_conversationRows hrow))
      · exact consumed_of_map (fun _ => rfl) _
      · intro db row hrow
        dsimp only at hrow
        split at hrow
        · cases hrow
        · obtain ⟨grant, -, rfl⟩ := List.mem_map.mp hrow
          exact Or.inl rfl
      · exact consumed_of_map (fun _ => rfl) _
      · exact consumed_of_map (fun _ => rfl) _
  · obtain ⟨installationId, -, rfl⟩ := List.mem_map.mp h
    exact consumed_of_map (fun _ => rfl) _

theorem targetStatements_consumed {input : ConsumeCommitInput} {intent : MembershipIntentRow}
    {rows : DeliveryDb → List Row} (h : rows ∈ targetStatements input conversationId intent) :
    Consumed conversationId input.intentId rows := by
  unfold targetStatements at h
  split at h
  · simp only [List.mem_cons, List.not_mem_nil, or_false] at h
    rcases h with rfl | rfl
    · exact consumed_of_map (fun _ => rfl) _
    · exact consumed_of_map (fun _ => rfl) _
  · obtain rfl := List.mem_singleton.mp h
    exact consumed_of_map (fun _ => rfl) _

theorem follows_consumed {intentId : String} {statements : List (DeliveryDb → List Row)}
    (sees : request.On conversationId db) (hconversation : held (.conversation conversationId))
    (hintent : held (.intent intentId))
    (consumed : ∀ rows ∈ statements, Consumed conversationId intentId rows)
    (ends : ∀ later, request.On conversationId later → Grows conversationId db later →
      ∀ now : Row → Prop, (∀ r, held r → now r) →
        (lockDiscipline conversationId).Follows request now later last) :
    (lockDiscipline conversationId).Follows request held db (.lockEach statements last) := by
  refine Discipline.follows_lockEach sees (fun rows hrows later _ _ row hrow => ?_) ends
  rcases consumed rows hrows later row hrow with hinner | rfl | rfl
  · exact Or.inr fun now hnow => ask_inner hinner (hnow _ hconversation)
  · exact Or.inl hintent
  · exact Or.inl hconversation

theorem follows_consumeCommit (signer : LogSigner) (entropy : CommitEntropy)
    (input : ConsumeCommitInput)
    (sees : (Request.consumeCommit signer entropy input).On conversationId db) :
    (lockDiscipline conversationId).Follows (.consumeCommit signer entropy input)
      (fun _ => False) db (consumeCommitScript H keys signer entropy input db) := by
  unfold consumeCommitScript
  dsimp only
  split
  rotate_left
  · exact .of_same rfl
  next peeked _ hpeeked =>
  have hmem := List.mem_filter.mp (onlyRow_eq_some.mp hpeeked ▸ List.mem_singleton_self peeked)
  rw [sees.2 peeked hmem.1 (congrArg some (of_decide_eq_true hmem.2))]
  refine ⟨fun row hrow now _ hnow _ => ?_, fun later _ _ => ?_⟩
  · rw [mem_conversationRows hrow]
    refine ⟨rfl, fun hauthority => ?_, nofun⟩
    rcases hnow _ hauthority with h | h
    · exact h
    · cases mem_conversationRows h
  dsimp only
  split
  rotate_left
  · exact .of_same rfl
  next first others _ hrows _ =>
  have hfirst : first ∈ conversationRows conversationId db := hrows ▸ List.mem_cons_self
  have hconversation : Row.conversation conversationId ∈ conversationRows conversationId db :=
    mem_conversationRows hfirst ▸ hfirst
  refine ⟨fun row hrow now hmore hnow _ => ?_, fun last _ _ => ⟨?_, fun final on _ => ?_⟩⟩
  · rw [mem_intentRows hrow]
    refine ⟨rfl, fun hauthority => ?_, fun _ => hmore _ (Or.inr hconversation), fun _ => rfl⟩
    rcases hnow _ hauthority with (h | h) | h
    · exact h
    · cases mem_conversationRows h
    · cases mem_intentRows h
  · intro row hrow now hmore _ _
    obtain ⟨proposal, -, rfl⟩ := List.mem_map.mp hrow
    exact hmore _ (Or.inl (Or.inr hconversation))
  dsimp only
  split
  · exact .of_same rfl
  · exact .of_same rfl
  next first others intent hrows hintent =>
  have hfirst : first ∈ intentRows later input.intentId := hrows ▸ List.mem_cons_self
  have hintentRow : Row.intent input.intentId ∈ intentRows later input.intentId :=
    mem_intentRows hfirst ▸ hfirst
  split
  · exact .of_same rfl
  refine follows_consumed on (Or.inl (Or.inl (Or.inr hconversation))) (Or.inl (Or.inr hintentRow))
    (fun rows hrows => ?_) fun checked _ _ now hnow => ⟨fun row hrow _ _ _ _ => ?_, ?_⟩
  · rcases List.mem_append.mp hrows with hrows | hrows
    · rcases List.mem_append.mp hrows with hrows | hrows
      · obtain ⟨pair, -, rfl⟩ := List.mem_map.mp hrows
        exact consumed_of_map (fun _ => rfl) _
      · exact targetStatements_consumed hrows
    · obtain rfl := List.mem_singleton.mp hrows
      exact consumed_of_map (fun _ => rfl) _
  · obtain ⟨-, -, rfl⟩ := List.mem_map.mp hrow
    rfl
  intro signing on _
  dsimp only
  split
  · exact .of_same rfl
  exact follows_consumed on (Or.inl (hnow _ (Or.inl (Or.inl (Or.inr hconversation)))))
    (Or.inl (hnow _ (Or.inl (Or.inr hintentRow))))
    (fun rows hrows => storeCommitStatements_consumed hrows)
    fun _ _ _ _ _ => follows_refresh fun written _ _ _ _ =>
      consumeCommit_grows signer entropy input written

theorem Request.follows (H : HashFunction) (keys : AuthorityDerivations) (request : Request)
    (sees : request.On conversationId db) :
    (lockDiscipline conversationId).Follows request (fun _ => False) db
      (request.script H keys db) := by
  cases request with
  | createIntent entropy input =>
    exact follows_createIntent entropy input (sees.1 entropy input rfl)
  | cancelIntent intentId requester => exact follows_cancelIntent intentId requester
  | recordProposal signer entropy input => exact follows_recordProposal signer entropy input
  | consumeCommit signer entropy input => exact follows_consumeCommit signer entropy input sees

end

section

variable {conversationId : String} {H : HashFunction} {keys : AuthorityDerivations}
  {server : Server DeliveryDb Row Request}

/-- Where a row stands in the order of a transaction. -/
def lockLevel (request : Request) : Row → Nat
  | .intent _ => if request.commits then 2 else 0
  | .conversation _ => 1
  | .authority _ => 3
  | _ => 4

theorem inner_uncontested {first second : Request} {mine others : Row → Prop} {row : Row}
    {db : DeliveryDb} (exclusive : ∀ r, mine r → ¬ others r)
    (asked : askRule conversationId first db mine row)
    (held : heldRule conversationId second others row) :
    (∃ id, row = .conversation id) ∨ (∃ id, row = .intent id) ∨ ∃ id, row = .authority id := by
  cases row with
  | conversation id => exact Or.inl ⟨id, rfl⟩
  | intent id => exact Or.inr (Or.inl ⟨id, rfl⟩)
  | authority id => exact Or.inr (Or.inr ⟨id, rfl⟩)
  | _ => exact absurd held (exclusive _ asked)

theorem commit_not_crossed {first second : Session DeliveryDb Row Request} {intentId id : String}
    {db : DeliveryDb} (beside : first.request.Beside second.request db)
    (commits : first.request.commits = true) (names : first.request.intentId = some intentId)
    (held : heldRule conversationId second.request (· ∈ second.held) (.intent intentId))
    (asked : askRule conversationId second.request db (· ∈ second.held) (.conversation id))
    (fresh : Row.conversation id ∉ second.held) : False := by
  obtain ⟨hnames, hheld⟩ := held
  obtain ⟨rfl, -, hkind⟩ := asked
  cases hfirst : first.request with
  | createIntent | cancelIntent | recordProposal =>
    rw [hfirst] at commits
    cases commits
  | consumeCommit signer entropy input =>
    rw [hfirst] at names beside
    cases names
    cases hsecond : second.request with
    | createIntent =>
      rw [hsecond] at hnames
      cases hnames
    | cancelIntent other requester =>
      rw [hsecond] at hnames beside
      cases hnames
      obtain ⟨-, hremoval⟩ := beside rfl
      obtain ⟨row, hrow, hid, hoperation⟩ := hkind _ requester hsecond
      exact hoperation (hremoval row hrow hid)
    | recordProposal =>
      rw [hsecond] at hnames beside
      exact beside (Option.some.inj hnames)
    | consumeCommit =>
      rw [hsecond] at hheld
      exact fresh (hheld rfl)

theorem level_lt {i j k : Nat} {first second third : Session DeliveryDb Row Request}
    {row other : Row} (orderly : (lockDiscipline conversationId).Orderly server) (hij : i ≠ j)
    (hjk : j ≠ k) (hfirst : server.session i = some first)
    (hsecond : server.session j = some second) (hthird : server.session k = some third)
    (asked : row ∈ first.pending) (held : row ∈ second.held) (next : other ∈ second.pending)
    (kept : other ∈ third.held) :
    lockLevel first.request row < lockLevel second.request other := by
  have hask : askRule conversationId first.request server.db (· ∈ first.held) row :=
    (orderly.obeys i first hfirst).asked asked
  have hheld : heldRule conversationId second.request (· ∈ second.held) row :=
    (orderly.obeys j second hsecond).kept row held
  have hnext : askRule conversationId second.request server.db (· ∈ second.held) other :=
    (orderly.obeys j second hsecond).asked next
  have hkept : heldRule conversationId third.request (· ∈ third.held) other :=
    (orderly.obeys k third hthird).kept other kept
  have hfresh := (orderly.obeys j second hsecond).fresh other next
  have hbeside : first.request.Beside second.request server.db :=
    orderly.compatible i j first second hij hfirst hsecond
  have hrow := inner_uncontested (fun r => orderly.exclusive i j first second r hij hfirst hsecond)
    hask hheld
  have hother := inner_uncontested
    (fun r => orderly.exclusive j k second third r hjk hsecond hthird) hnext hkept
  rcases hrow with ⟨id, rfl⟩ | ⟨id, rfl⟩ | ⟨id, rfl⟩
  · obtain rfl : id = conversationId := hheld
    rcases hother with ⟨id', rfl⟩ | ⟨id', rfl⟩ | ⟨id', rfl⟩
    · obtain rfl := hnext.1
      exact absurd held hfresh
    · -- only a Commit asks for its intent under the lock of the conversation
      have hcommits : second.request.commits = true := hnext.2.2.mpr held
      simp only [lockLevel, hcommits, if_true]
      omega
    · exact Nat.lt_of_succ_lt (Nat.lt_succ_self 2)
  · have hlow : lockLevel first.request (.intent id) ≤ 2 := by
      change (if first.request.commits then 2 else 0) ≤ 2
      split <;> omega
    rcases hother with ⟨id', rfl⟩ | ⟨id', rfl⟩ | ⟨id', rfl⟩
    · cases hcommits : first.request.commits with
      | true => exact (commit_not_crossed hbeside hcommits hask.1 hheld hnext hfresh).elim
      | false =>
        simp only [lockLevel, hcommits]
        exact Nat.one_pos
    · cases hheld.1.symm.trans hnext.1
      exact absurd held hfresh
    · exact Nat.lt_succ_of_le hlow
  · obtain rfl : id = conversationId := hheld
    rcases hother with ⟨id', rfl⟩ | ⟨id', rfl⟩ | ⟨id', rfl⟩
    · exact absurd held hnext.2.1
    · exact absurd held hnext.2.1
    · obtain rfl : id' = id := hnext
      exact absurd held hfresh

theorem not_deadlocked (orderly : (lockDiscipline conversationId).Orderly server) :
    ¬ server.Deadlocked := by
  refine not_deadlocked_of_rising (fun index row => match server.session index with
    | none => 0
    | some session => lockLevel session.request row) ?_
  rintro i j k row other ⟨hij, ⟨first, hfirst, asked⟩, second, hsecond, held⟩
    ⟨hjk, ⟨again, hagain, next⟩, third, hthird, kept⟩
  cases hsecond.symm.trans hagain
  rw [Option.mem_def.mp hfirst, Option.mem_def.mp hsecond]
  exact level_lt orderly hij hjk hfirst hsecond hthird asked held next kept

variable (H : HashFunction) (keys : AuthorityDerivations)

/-- A request starts that is about the conversation and may run beside those that run. -/
def Admissible (conversationId : String) (event : Event Row Request)
    (server : Server DeliveryDb Row Request) : Prop :=
  ∀ request, event = .start request → request.On conversationId server.db ∧
    ∀ index other, server.session index = some other →
      request.Beside other.request server.db ∧ other.request.Beside request server.db

/-- While no Commit runs beside the recording of its proposal or the cancellation of its addition,
the transactions on a conversation never wait for each other in a circle. -/
theorem lock_waits_stay_acyclic (conversationId : String) (start : DeliveryDb)
    (events : List (Event Row Request)) (reached : Server DeliveryDb Row Request)
    (admissible : Guarded (Server.take (Request.script H keys)) (Admissible conversationId) events
      (Server.idle start))
    (h : run (Server.take (Request.script H keys)) events (Server.idle start) = some reached) :
    ¬ reached.Deadlocked := by
  refine not_deadlocked ((Discipline.orderly_idle (d := lockDiscipline conversationId)).run
    (fun request db sees => request.follows H keys sees) ?_ h)
  refine admissible.mono fun event server allowed => ?_
  cases event with
  | start request => exact allowed request rfl
  | acquire | advance | abort => trivial

end

/-- The addition of a third member, with its proposal recorded. -/
def proposedAddition : MembershipIntentRow :=
  { sampleIntent with
    operation := .add
    targetInstallationId := "00000000-0000-4000-8000-0000000000b3"
    state := .proposed }

def proposedDb : DeliveryDb :=
  { pendingDb with membershipIntents := [proposedAddition] }

def additionCommit : ConsumeCommitInput where
  intentId := sampleEntropy.intentId
  committerInstallationId := staffInstallationId
  expectedEpoch := 2
  expectedRosterVersion := 2
  proposedRosterHash := List.replicate 32 0
  mandatoryProposals := []
  envelopeId := "00000000-0000-4000-8000-0000000000f2"
  commit := [7]
  envelopeSha256 := computeEnvelopeSha256 lastBytes [7]
  baseConfirmedTranscriptHash := List.replicate 32 7
  resultingConfirmedTranscriptHash := List.replicate 32 10
  resultingEpoch := 3
  welcomeByInstallation := [("00000000-0000-4000-8000-0000000000b3", [1])]
  targetCredentialId := some "00000000-0000-4000-8000-0000000000e3"

def commitRequest : Request :=
  .consumeCommit (fun _ digest => .ok digest)
    ⟨sampleEntropy.now, ⟨"head", sampleEntropy.now, "checkpoint"⟩⟩ additionCommit

/-- The Commit has the conversation when the addition is withdrawn. -/
def crossedEvents : List (Event Row Request) :=
  [.start commitRequest, .advance 0, .acquire 0 (.conversation sampleConversationId), .advance 0,
    .start (.cancelIntent sampleEntropy.intentId staffInstallationId), .advance 1,
    .acquire 1 (.intent sampleEntropy.intentId), .advance 1, .advance 1]

/-- A removal of the customer is asked for while the Commit holds the conversation. -/
def queuedEvents : List (Event Row Request) :=
  [.start commitRequest, .advance 0, .acquire 0 (.conversation sampleConversationId), .advance 0,
    .start (.createIntent sampleEntropy sampleRemoval), .advance 1]

theorem commitRequest_on : commitRequest.On sampleConversationId proposedDb :=
  ⟨fun _ _ h => (by cases h), fun row hrow _ => by rw [List.mem_singleton.mp hrow]; rfl⟩

/-- The request waits for the Commit, which waits for nobody. -/
theorem lock_waits_stay_acyclic_queued :
    ∃ reached, run (Server.take (Request.script lastBytes sampleKeys)) queuedEvents
        (Server.idle proposedDb) = some reached ∧ reached.Waits 1 0 ∧ ¬ reached.Deadlocked := by
  refine ⟨_, rfl, ?_, lock_waits_stay_acyclic lastBytes sampleKeys sampleConversationId proposedDb
    queuedEvents _ ?_ rfl⟩
  · exact ⟨.conversation sampleConversationId, nofun, ⟨_, rfl, List.mem_cons_self⟩,
      ⟨_, rfl, List.mem_cons_self⟩⟩
  · refine .cons ?_ fun _ _ => .of_forall fun event hevent server request hrequest => ?_
    · rintro request hrequest
      obtain rfl := Event.start.inj hrequest
      exact ⟨commitRequest_on, fun index other h =>
        absurd (Server.session_lt h) (Nat.not_lt_zero index)⟩
    · subst hrequest
      have hcreate : request = .createIntent sampleEntropy sampleRemoval := by
        simpa only [List.mem_cons, Event.start.injEq, reduceCtorEq, false_or, List.not_mem_nil,
          or_false] using hevent
      subst hcreate
      refine ⟨⟨fun _ input h => ?_, fun _ _ h => (by cases h)⟩, fun index other h => ⟨trivial, ?_⟩⟩
      · obtain ⟨-, rfl⟩ := Request.createIntent.inj h
        rfl
      · unfold Request.Beside
        split <;> trivial

theorem crossed_withdrawal_deadlocks :
    (∀ request, .start request ∈ crossedEvents → request.On sampleConversationId proposedDb) ∧
      ∃ reached, run (Server.take (Request.script lastBytes sampleKeys)) crossedEvents
        (Server.idle proposedDb) = some reached ∧ reached.Deadlocked := by
  refine ⟨fun request hrequest => ?_, _, rfl, 0, .tail (.single ?_) (b := 1) ?_⟩
  · simp only [crossedEvents, List.mem_cons, Event.start.injEq, reduceCtorEq, false_or,
      List.not_mem_nil, or_false] at hrequest
    rcases hrequest with rfl | rfl
    · exact commitRequest_on
    · exact ⟨fun _ _ h => (by cases h), fun row hrow _ => by rw [List.mem_singleton.mp hrow]; rfl⟩
  · exact ⟨.intent sampleEntropy.intentId, nofun, ⟨_, rfl, List.mem_cons_self⟩,
      ⟨_, rfl, List.mem_cons_self⟩⟩
  · exact ⟨.conversation sampleConversationId, nofun, ⟨_, rfl, List.mem_cons_self⟩,
      ⟨_, rfl, List.mem_cons_self⟩⟩

end JbChat.Store.LockOrder
