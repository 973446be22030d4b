/- source: src/production/storage/postgresDeliveryStore.ts, externalProposalStore.ts,
     membershipCommitStore.ts, conversationPlanStore.ts
   digest: What the writers of a conversation log have in common. -/

import JbChat.Store.AppendStore

/-!
A writer outside the append lane reads its rows, asks the log signer for one signature and
then writes. The reading part ends with a result or with the envelope it wants signed.
-/

set_option autoImplicit false

namespace JbChat.Store.LogWriter

open Foundation.HashTrace
open Foundation.Transaction Delivery.ValueObjects Delivery.Hashes Delivery.EnvelopeLog Tables
open Store.Authority AppendStore

/-- An envelope whose checkpoint is not signed yet. -/
structure EnvelopeDraft extends EnvelopeLeafInput where
  transcript : Option (Bytes × Bytes)
  envelopeBytes : Bytes
  previousHeadHash : Bytes
  leafHash : Bytes
  headHash : Bytes
  logSigningKeyId : String
  logCheckpointDigest : Bytes

def draftEnvelope (H : HashFunction) (leaf : EnvelopeLeafInput) (transcript : Option (Bytes × Bytes))
    (envelopeBytes previousHeadHash : Bytes) (signingKeyId : String) :
    Except Failure EnvelopeDraft := do
  let leafHash ← computeEnvelopeLeafHash H leaf
  let headHash ← computeLogHeadHash H previousHeadHash leafHash
  let checkpointDigest ← logCheckpointDigest H leaf.conversationId leaf.position previousHeadHash
    headHash signingKeyId
  .ok
    { leaf with
      transcript := transcript
      envelopeBytes := envelopeBytes
      previousHeadHash := previousHeadHash
      leafHash := leafHash
      headHash := headHash
      logSigningKeyId := signingKeyId
      logCheckpointDigest := checkpointDigest }

def EnvelopeDraft.row (draft : EnvelopeDraft) (signature : Bytes) : EnvelopeRow :=
  { draft.toEnvelopeLeafInput with
    transcript := draft.transcript
    envelopeBytes := draft.envelopeBytes
    previousHeadHash := draft.previousHeadHash
    leafHash := draft.leafHash
    headHash := draft.headHash
    logSigningKeyId := draft.logSigningKeyId
    logCheckpointDigest := draft.logCheckpointDigest
    logHeadSignature := signature
    expiresAt := envelopeExpiry draft.receivedAt }

/-- `signCheckpointDigest` of the signing port. -/
abbrev LogSigner := String → Bytes → Except Failure Bytes

/-- The signing key of the conversation, when it is active and within its validity. -/
def activeLogKeys (db : DeliveryDb) (conversationId now : String) : List String :=
  ((custodyRows db conversationId).filter fun row => decide (row.2.state = .active ∧
    row.2.validFrom ≤ now ∧ now < row.2.validUntil)).map fun row => row.1.activeSigningKeyId

theorem draftEnvelope_eq_ok {H : HashFunction} {leaf : EnvelopeLeafInput}
    {transcript : Option (Bytes × Bytes)} {envelopeBytes previousHeadHash : Bytes}
    {signingKeyId : String} {draft : EnvelopeDraft}
    (h : draftEnvelope H leaf transcript envelopeBytes previousHeadHash signingKeyId = .ok draft) :
    draft.toEnvelopeLeafInput = leaf ∧ draft.previousHeadHash = previousHeadHash ∧
      draft.logSigningKeyId = signingKeyId ∧
      computeEnvelopeLeafHash H leaf = .ok draft.leafHash ∧
      computeLogHeadHash H previousHeadHash draft.leafHash = .ok draft.headHash ∧
      logCheckpointDigest H leaf.conversationId leaf.position previousHeadHash draft.headHash
        signingKeyId = .ok draft.logCheckpointDigest := by
  obtain ⟨leafHash, hleaf, h1⟩ := bind_ok.mp h
  obtain ⟨headHash, hhead, h2⟩ := bind_ok.mp h1
  obtain ⟨digest, hdigest, h3⟩ := bind_ok.mp h2
  cases h3
  exact ⟨rfl, rfl, rfl, hleaf, hhead, hdigest⟩

def advanceLog (draft : EnvelopeDraft) (now : String) (row : ConversationRow) : ConversationRow :=
  { row with
    lastPosition := draft.position
    currentLogHeadHash := draft.headHash
    lastActivityAt := now }

def isConversation (conversationId : String) (row : ConversationRow) : Bool :=
  decide (row.conversationId = conversationId)

/-- `UPDATE conversations ... WHERE conversation_id` -/
def updateConversation (conversationId : String) (change : ConversationRow → ConversationRow)
    (db : DeliveryDb) : DeliveryDb :=
  { db with conversations := updateWhere (isConversation conversationId) change db.conversations }

def insertPageEndProjectionFromRows (conversationId : String) (position : Nat)
    (observedAt : String) (db : DeliveryDb) : Except Failure DeliveryDb :=
  match onlyRow (db.conversations.filter (isConversation conversationId)),
      onlyRow (db.policyHeadAnchors.filter fun row =>
        decide (row.conversationId = conversationId)) with
  | some conversation, some policyHead => do
    let pageEnds ← insertUnique "conversation_page_end_projections_pkey"
      (fun row => (row.conversation.conversationId, row.position))
      ⟨conversation.toLockedConversationState, position, policyHead, observedAt⟩ db.pageEnds
    .ok { db with pageEnds := pageEnds }
  | _, _ => .error (.invalid
      "The page-end projection needs exactly one conversation and anchor row.")

/-- One mailbox item of class `commit` for each installation. -/
def deliverCommit (draft : EnvelopeDraft) (now : String) :
    List String → DeliveryDb → Except Failure DeliveryDb
  | [], db => .ok db
  | installationId :: others, db => do
    let (mailboxPosition, counters) ← advanceSequence "mailbox_counters_check" installationId
      db.mailboxCounters
    let row : MailboxEntryRow :=
      { installationId := installationId
        mailboxPosition := mailboxPosition
        conversationId := draft.conversationId
        envelopePosition := draft.position
        envelopeId := draft.envelopeId
        deliveryClass := .commit
        createdAt := now
        expiresAt := envelopeExpiry now }
    if db.mailboxEntries.any fun other => decide (other.installationId = installationId ∧
        other.conversationId = draft.conversationId ∧
        other.envelopePosition = draft.position) then
      .error (.sql "mailbox_entries_installation_id_key")
    else
      let entries ← insertUnique "mailbox_entries_pkey"
        (fun row => (row.installationId, row.mailboxPosition)) row db.mailboxEntries
      deliverCommit draft now others { db with
        mailboxCounters := counters
        mailboxEntries := entries }

def emitEvent (H : HashFunction) (conversationId eventType : String)
    (payload : List (String × String)) (now : String) (db : DeliveryDb) : DeliveryDb :=
  { db with
    outbox := db.outbox ++ [⟨sha256Bytes H [utf8 conversationId], eventType, payload, now⟩] }

/-- The columns of `mls_welcomes`: its key, and its size. -/
def insertWelcome (H : HashFunction) (draft : EnvelopeDraft) (targetInstallationId : String)
    (welcome : Bytes) (now : String) (db : DeliveryDb) : Except Failure DeliveryDb :=
  if welcome.length > 262144 then .error (.sql "mls_welcomes_check")
  else do
    let welcomes ← insertUnique "mls_welcomes_pkey"
      (fun row => (row.conversationId, row.commitPosition, row.targetInstallationId))
      ⟨draft.conversationId, draft.position, draft.envelopeId, targetInstallationId, welcome,
        sha256Bytes H [welcome], now, envelopeExpiry now⟩ db.admission.welcomes
    .ok { db with admission := { db.admission with welcomes := welcomes } }

end JbChat.Store.LogWriter
