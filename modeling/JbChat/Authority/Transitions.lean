/- source: src/production/authority/delegations.ts
   digest: Authority generations, their successors and the scans that report them. -/

import JbChat.Authority.Finality

set_option autoImplicit false

namespace JbChat.Authority.Transitions

open Foundation.HashTrace ValueObjects Digests Finality

inductive AuthorityTransitionCause where
  | bootstrap
  | ordinaryOwnerTransfer
  | projectOwnerBurned
  | revnetOperatorReplacement
  | revnetOperatorRelinquished
  | authorityModeChange
  | recoveryRotation
  | canonicalAuthorityDisabled
deriving DecidableEq

def AuthorityTransitionCause.text : AuthorityTransitionCause → String
  | .bootstrap => "bootstrap"
  | .ordinaryOwnerTransfer => "ordinary-owner-transfer"
  | .projectOwnerBurned => "project-owner-burned"
  | .revnetOperatorReplacement => "revnet-operator-replacement"
  | .revnetOperatorRelinquished => "revnet-operator-relinquished"
  | .authorityModeChange => "authority-mode-change"
  | .recoveryRotation => "recovery-rotation"
  | .canonicalAuthorityDisabled => "canonical-authority-disabled"

inductive AuthorityStatus where
  | active
  | disabled
deriving DecidableEq

def AuthorityStatus.text : AuthorityStatus → String
  | .active => "active"
  | .disabled => "disabled"

inductive RootKind where
  | jbprojectsOwner
  | revnetOperatorSet
  | noCurrentAuthority
deriving DecidableEq

def RootKind.text : RootKind → String
  | .jbprojectsOwner => "jbprojects-owner"
  | .revnetOperatorSet => "revnet-operator-set"
  | .noCurrentAuthority => "no-current-authority"

/-- The place of a finalized transition. `logIndex` counts in the whole block. -/
structure AuthorityTransitionCursor where
  deploymentManifestId : AuthorityId
  adapterRevision : AuthorityId
  sourceId : AuthorityId
  blockNumber : Uint256Decimal
  blockHash : Hash32
  transactionHash : Hash32
  transactionIndex : SafeIndex
  logIndex : SafeIndex
  emitter : EthereumAddress
  eventTopic0 : Hash32
deriving DecidableEq

/-- The mode of a source is the kind of a root that is no tombstone. -/
structure AuthorityTransitionSource where
  sourceId : AuthorityId
  deploymentManifestId : AuthorityId
  adapterRevision : AuthorityId
  authorityMode : { mode : RootKind // mode ≠ .noCurrentAuthority }
  transitionCause : AuthorityTransitionCause
  emitter : EthereumAddress
  eventTopic0 : Hash32

structure AuthorityGeneration where
  generationId : AuthorityId
  project : JuiceboxV6ProjectRef
  sequence : Uint256Decimal
  transitionCause : AuthorityTransitionCause
  authorityStatus : AuthorityStatus
  rootKind : RootKind
  rootPrincipal : Option EthereumAddress
  rootEvidenceId : AuthorityId
  rootEvidenceDigest : Hash32
  activatedAtBlock : FinalizedBlockAnchor
  transitionCursor : AuthorityTransitionCursor
  predecessorGenerationId : Option AuthorityId
deriving DecidableEq

/-- A checkpoint without its own digest. -/
structure CheckpointBody where
  checkpointId : AuthorityId
  project : JuiceboxV6ProjectRef
  deploymentManifestId : AuthorityId
  adapterRevision : AuthorityId
  sourceSetDigest : Hash32
  previousCheckpointId : Option AuthorityId
  previousCheckpointDigest : Option Hash32
  rangeStartBlockNumber : Uint256Decimal
  verifiedThroughBlock : FinalizedBlockAnchor
  rangeTransitionCount : Nat
  cumulativeTransitionCount : Uint256Decimal
  lastGenerationId : AuthorityId
  lastGenerationSequence : Uint256Decimal
  lastTransitionCursor : AuthorityTransitionCursor
  transitionsDigest : Hash32
deriving DecidableEq

structure AuthorityTransitionScanCheckpoint extends CheckpointBody where
  checkpointDigest : Hash32
deriving DecidableEq

structure FinalizedAuthorityTransitionScan where
  checkpoint : AuthorityTransitionScanCheckpoint
  generations : List AuthorityGeneration
deriving DecidableEq

/-- What the caller of a scan expects. -/
structure ScanExpectation where
  project : JuiceboxV6ProjectRef
  adapterRevision : AuthorityId
  sources : List AuthorityTransitionSource
  previousCheckpoint : Option AuthorityTransitionScanCheckpoint
  previousGeneration : Option AuthorityGeneration
  initialRangeStartBlockNumber : Uint256Decimal
  verifiedThroughBlock : FinalizedBlockAnchor
  now : CanonicalInstant

section

variable (H : HashFunction)

def cursorJson (cursor : AuthorityTransitionCursor) : JsonValue :=
  .record [("kind", .text "authority-transition-cursor.v1"),
    ("deploymentManifestId", .text cursor.deploymentManifestId.val),
    ("adapterRevision", .text cursor.adapterRevision.val),
    ("sourceId", .text cursor.sourceId.val),
    ("blockNumber", decimal cursor.blockNumber),
    ("blockHash", .text cursor.blockHash.val),
    ("transactionHash", .text cursor.transactionHash.val),
    ("transactionIndex", .integer cursor.transactionIndex.val),
    ("logIndex", .integer cursor.logIndex.val),
    ("emitter", .text cursor.emitter.val),
    ("eventTopic0", .text cursor.eventTopic0.val)]

def sourceJson (source : AuthorityTransitionSource) : JsonValue :=
  .record [("kind", .text "authority-transition-source.v1"),
    ("sourceId", .text source.sourceId.val),
    ("deploymentManifestId", .text source.deploymentManifestId.val),
    ("adapterRevision", .text source.adapterRevision.val),
    ("authorityMode", .text source.authorityMode.val.text),
    ("transitionCause", .text source.transitionCause.text),
    ("emitter", .text source.emitter.val),
    ("eventTopic0", .text source.eventTopic0.val)]

def generationJson (generation : AuthorityGeneration) : JsonValue :=
  .record [("kind", .text "project-authority-generation.v1"),
    ("generationId", .text generation.generationId.val),
    ("project", projectJson generation.project),
    ("sequence", decimal generation.sequence),
    ("transitionCause", .text generation.transitionCause.text),
    ("authorityStatus", .text generation.authorityStatus.text),
    ("rootKind", .text generation.rootKind.text),
    ("rootPrincipal", nullable (fun address => .text address.val) generation.rootPrincipal),
    ("rootEvidenceId", .text generation.rootEvidenceId.val),
    ("rootEvidenceDigest", .text generation.rootEvidenceDigest.val),
    ("activatedAtBlock", anchorJson generation.activatedAtBlock),
    ("transitionCursor", cursorJson generation.transitionCursor),
    ("predecessorGenerationId",
      nullable (fun id => .text id.val) generation.predecessorGenerationId)]

def checkpointMembers (body : CheckpointBody) : Members :=
  [("kind", .text "authority-transition-scan-checkpoint.v1"),
    ("checkpointId", .text body.checkpointId.val),
    ("project", projectJson body.project),
    ("deploymentManifestId", .text body.deploymentManifestId.val),
    ("adapterRevision", .text body.adapterRevision.val),
    ("sourceSetDigest", .text body.sourceSetDigest.val),
    ("previousCheckpointId", nullable (fun id => .text id.val) body.previousCheckpointId),
    ("previousCheckpointDigest",
      nullable (fun digest => .text digest.val) body.previousCheckpointDigest),
    ("rangeStartBlockNumber", decimal body.rangeStartBlockNumber),
    ("verifiedThroughBlock", anchorJson body.verifiedThroughBlock),
    ("rangeTransitionCount", .integer body.rangeTransitionCount),
    ("cumulativeTransitionCount", decimal body.cumulativeTransitionCount),
    ("lastGenerationId", .text body.lastGenerationId.val),
    ("lastGenerationSequence", decimal body.lastGenerationSequence),
    ("lastTransitionCursor", cursorJson body.lastTransitionCursor),
    ("transitionsDigest", .text body.transitionsDigest.val)]

def checkpointJson (body : CheckpointBody) : JsonValue := .record (checkpointMembers body)

def computeAuthorityTransitionSourceSetDigest (sources : List AuthorityTransitionSource) :
    Checked Hash32 :=
  sha256AuthorityDigest H (.record [("kind", .text "authority-transition-source-set.v1"),
    ("sources", .array (sources.map sourceJson))])

end

def parseAuthorityTransitionCursor (value : JsonValue) (deploymentManifestId : AuthorityId)
    (block : FinalizedBlockAnchor) : Checked AuthorityTransitionCursor := do
  let record ← expectExactRecord value
    ["kind", "deploymentManifestId", "adapterRevision", "sourceId", "blockNumber", "blockHash",
      "transactionHash", "transactionIndex", "logIndex", "emitter", "eventTopic0"]
    "authority transition cursor"
  if ¬ (property record "kind").isText "authority-transition-cursor.v1" then
    invalid "Authority transition cursor kind is unsupported."
  else do
    let manifestId ← parseAuthorityId (property record "deploymentManifestId")
      "transition deployment manifest ID"
    let adapterRevision ← parseAuthorityId (property record "adapterRevision")
      "transition adapter revision"
    let sourceId ← parseAuthorityId (property record "sourceId") "transition source ID"
    let blockNumber ← parseUint256Decimal (property record "blockNumber")
      "transition block number"
    let blockHash ← parseHash32 (property record "blockHash") "transition block hash"
    let transactionHash ← parseHash32 (property record "transactionHash")
      "transition transaction hash"
    let transactionIndex ← parseLogIndex (property record "transactionIndex") "transactionIndex"
    let logIndex ← parseLogIndex (property record "logIndex") "block-global logIndex"
    let emitter ← parseEthereumAddress (property record "emitter") "transition emitter"
    let eventTopic0 ← parseHash32 (property record "eventTopic0") "transition topic0"
    if manifestId ≠ deploymentManifestId ∨ blockNumber ≠ block.blockNumber ∨
        blockHash ≠ block.blockHash then
      invalid "Authority transition cursor is detached from its manifest or block."
    else .ok ⟨manifestId, adapterRevision, sourceId, blockNumber, blockHash, transactionHash,
      transactionIndex, logIndex, emitter, eventTopic0⟩

/-- Positive when the left cursor comes after the right one, zero when the two conflict. -/
def compareTransitionCursors (left right : AuthorityTransitionCursor) : Int :=
  if left.logIndex = right.logIndex ∨
      (right.logIndex.val < left.logIndex.val ∧
        left.transactionIndex.val < right.transactionIndex.val) ∨
      (left.logIndex.val < right.logIndex.val ∧
        right.transactionIndex.val < left.transactionIndex.val) then 0
  else (left.logIndex.val : Int) - right.logIndex.val

def parseAuthorityTransitionCause (value : JsonValue) : Checked AuthorityTransitionCause :=
  match value with
  | .text "bootstrap" => .ok .bootstrap
  | .text "ordinary-owner-transfer" => .ok .ordinaryOwnerTransfer
  | .text "project-owner-burned" => .ok .projectOwnerBurned
  | .text "revnet-operator-replacement" => .ok .revnetOperatorReplacement
  | .text "revnet-operator-relinquished" => .ok .revnetOperatorRelinquished
  | .text "authority-mode-change" => .ok .authorityModeChange
  | .text "recovery-rotation" => .ok .recoveryRotation
  | .text "canonical-authority-disabled" => .ok .canonicalAuthorityDisabled
  | _ => invalid "Authority transition cause is unsupported."

def parseAuthorityStatus (value : JsonValue) : Checked AuthorityStatus :=
  match value with
  | .text "active" => .ok .active
  | .text "disabled" => .ok .disabled
  | _ => invalid "Authority generation status is unsupported."

def parseRootKind (value : JsonValue) : Checked RootKind :=
  match value with
  | .text "jbprojects-owner" => .ok .jbprojectsOwner
  | .text "revnet-operator-set" => .ok .revnetOperatorSet
  | .text "no-current-authority" => .ok .noCurrentAuthority
  | _ => invalid "Authority generation root kind is unsupported."

/-- A tombstone has no root and no principal, and nothing else lacks them. -/
def assertTombstone (status : AuthorityStatus) (rootKind : RootKind) (rootPrincipal : JsonValue) :
    Checked Unit :=
  if ¬ (status = .disabled ↔ rootKind = .noCurrentAuthority) ∨
      ¬ (status = .disabled ↔ rootPrincipal.isNull = true) then
    invalid "Disabled authority generations must be explicit tombstones."
  else .ok ()

def assertSequence (sequence : Uint256Decimal) (predecessor : Option AuthorityId)
    (cause : AuthorityTransitionCause) : Checked Unit :=
  if sequence.val = 0 ∨ (sequence.val = 1 ∧ (predecessor ≠ none ∨ cause ≠ .bootstrap)) then
    invalid "Authority generation sequence or predecessor is invalid."
  else if sequence.val ≠ 1 ∧ (predecessor = none ∨ cause = .bootstrap) then
    invalid "Non-initial authority generation must name its predecessor."
  else .ok ()

def parseAuthorityGeneration (value : JsonValue) (policy : FinalityPolicy)
    (now : CanonicalInstant) : Checked AuthorityGeneration := do
  let record ← expectExactRecord value
    ["kind", "generationId", "project", "sequence", "transitionCause", "authorityStatus",
      "rootKind", "rootPrincipal", "rootEvidenceId", "rootEvidenceDigest", "activatedAtBlock",
      "transitionCursor", "predecessorGenerationId"]
    "authority generation"
  if ¬ (property record "kind").isText "project-authority-generation.v1" then
    invalid "Authority generation kind is unsupported."
  else do
    let transitionCause ← parseAuthorityTransitionCause (property record "transitionCause")
    let authorityStatus ← parseAuthorityStatus (property record "authorityStatus")
    let rootKind ← parseRootKind (property record "rootKind")
    assertTombstone authorityStatus rootKind (property record "rootPrincipal")
    let project ← parseJuiceboxV6ProjectRef (property record "project") "project"
    if project.chainId ≠ policy.chainId then
      invalid "Authority generation is on the wrong chain."
    else do
      let predecessorGenerationId ← parseNullable (property record "predecessorGenerationId")
        fun value => parseAuthorityId value "predecessorGenerationId"
      let sequence ← parseUint256Decimal (property record "sequence") "authority sequence"
      assertSequence sequence predecessorGenerationId transitionCause
      let activatedAtBlock ← parseFinalizedBlockAnchor (property record "activatedAtBlock") policy
        now
      let transitionCursor ← parseAuthorityTransitionCursor (property record "transitionCursor")
        project.deploymentManifestId activatedAtBlock
      let generationId ← parseAuthorityId (property record "generationId") "generationId"
      let rootPrincipal ← parseNullable (property record "rootPrincipal")
        fun value => parseEthereumAddress value "root principal"
      let rootEvidenceId ← parseAuthorityId (property record "rootEvidenceId") "rootEvidenceId"
      let rootEvidenceDigest ← parseHash32 (property record "rootEvidenceDigest")
        "root evidence digest"
      .ok ⟨generationId, project, sequence, transitionCause, authorityStatus, rootKind,
        rootPrincipal, rootEvidenceId, rootEvidenceDigest, activatedAtBlock, transitionCursor,
        predecessorGenerationId⟩

def expectedActiveCause (previous next : AuthorityGeneration) : AuthorityTransitionCause :=
  if previous.authorityStatus = .disabled ∨ previous.rootKind ≠ next.rootKind then
    .authorityModeChange
  else if previous.rootPrincipal = next.rootPrincipal then .recoveryRotation
  else if next.rootKind = .jbprojectsOwner then .ordinaryOwnerTransfer
  else .revnetOperatorReplacement

def expectedDisabledCause : RootKind → AuthorityTransitionCause
  | .jbprojectsOwner => .projectOwnerBurned
  | .revnetOperatorSet => .revnetOperatorRelinquished
  | .noCurrentAuthority => .canonicalAuthorityDisabled

def assertTransitionCauseMatchesRoots (previous next : AuthorityGeneration) : Checked Unit :=
  if next.authorityStatus = .disabled then
    if next.transitionCause ≠ expectedDisabledCause previous.rootKind ∧
        next.transitionCause ≠ .canonicalAuthorityDisabled then
      invalid "Disabled authority transition cause does not match its predecessor."
    else .ok ()
  else if next.transitionCause ≠ expectedActiveCause previous next then
    invalid "Authority transition cause does not match its root-state change."
  else .ok ()

def assertSuccessorAuthorityGeneration (previous next : AuthorityGeneration) : Checked Unit :=
  if ¬ sameJuiceboxV6ProjectRef previous.project next.project ∨
      next.generationId = previous.generationId ∨
      next.predecessorGenerationId ≠ some previous.generationId ∨
      next.rootEvidenceId = previous.rootEvidenceId ∨
      next.rootEvidenceDigest = previous.rootEvidenceDigest ∨
      next.sequence.val ≠ previous.sequence.val + 1 ∨
      next.activatedAtBlock.blockNumber.val < previous.activatedAtBlock.blockNumber.val then
    invalid ("Authority transitions must create a monotonic generation linked to the exact " ++
      "predecessor.")
  else do
    assertTransitionCauseMatchesRoots previous next
    if next.activatedAtBlock.blockNumber = previous.activatedAtBlock.blockNumber ∧
        (next.activatedAtBlock.blockHash ≠ previous.activatedAtBlock.blockHash ∨
          compareTransitionCursors next.transitionCursor previous.transitionCursor ≤ 0) then
      invalid ("Same-block authority transitions require the same canonical block hash and a " ++
        "strictly increasing event cursor.")
    else .ok ()

section

variable (H : HashFunction)

def assertPinnedSource (sources : List AuthorityTransitionSource)
    (prior : Option AuthorityGeneration) (generation : AuthorityGeneration) : Checked Unit :=
  let cursor := generation.transitionCursor
  let expectedMode := if generation.authorityStatus = .active then some generation.rootKind
    else prior.map fun previous => previous.rootKind
  match sources.find? fun source => decide (source.sourceId = cursor.sourceId) with
  | none => invalid "Authority transition does not match a pinned manifest source."
  | some source =>
    if source.deploymentManifestId ≠ cursor.deploymentManifestId ∨
        source.adapterRevision ≠ cursor.adapterRevision ∨ source.emitter ≠ cursor.emitter ∨
        source.eventTopic0 ≠ cursor.eventTopic0 ∨
        source.transitionCause ≠ generation.transitionCause ∨
        some source.authorityMode.val ≠ expectedMode then
      invalid "Authority transition does not match a pinned manifest source."
    else .ok ()

/-- The generation follows the last one, or is the first of all. -/
def assertFollows (prior : Option AuthorityGeneration) (generation : AuthorityGeneration) :
    Checked Unit :=
  match prior with
  | none =>
    if generation.sequence.val ≠ 1 ∨ generation.predecessorGenerationId ≠ none then
      invalid "Initial authority scan must begin with generation one."
    else .ok ()
  | some previous => assertSuccessorAuthorityGeneration previous generation

/-- The generations of a scan, each checked against the one before it. -/
def parseGenerations (policy : FinalityPolicy) (now : CanonicalInstant)
    (sources : List AuthorityTransitionSource) (rangeStart rangeEnd : Nat) :
    Option AuthorityGeneration → List JsonValue → Checked (List AuthorityGeneration)
  | _, [] => .ok []
  | prior, item :: items => do
    let generation ← parseAuthorityGeneration item policy now
    if generation.activatedAtBlock.blockNumber.val < rangeStart ∨
        rangeEnd < generation.activatedAtBlock.blockNumber.val then
      invalid "Authority transition falls outside the gap-free scan range."
    else do
      assertFollows prior generation
      assertPinnedSource sources prior generation
      let generations ← parseGenerations policy now sources rangeStart rangeEnd
        (some generation) items
      .ok (generation :: generations)

def parseSafeCount (value : JsonValue) (label : String) (maximum : Nat) : Checked Nat :=
  match value with
  | .integer number =>
    if 0 ≤ number ∧ number.toNat ≤ maximum then .ok number.toNat
    else invalid (label ++ " is outside its safe bound.")
  | .negativeZero => .ok 0
  | _ => invalid (label ++ " is outside its safe bound.")

def lastGeneration (prior : Option AuthorityGeneration) (generations : List AuthorityGeneration) :
    Option AuthorityGeneration :=
  generations.getLast?.or prior

def expectedRangeStart (expected : ScanExpectation) : Nat :=
  match expected.previousCheckpoint with
  | none => expected.initialRangeStartBlockNumber.val
  | some checkpoint => checkpoint.verifiedThroughBlock.blockNumber.val + 1

def namesPrevious (expected : ScanExpectation) (project : JuiceboxV6ProjectRef)
    (sourceSetDigest : Hash32) (previousCheckpointId : Option AuthorityId)
    (previousCheckpointDigest : Option Hash32) : Bool :=
  match expected.previousCheckpoint with
  | none => decide (previousCheckpointId = none ∧ previousCheckpointDigest = none)
  | some checkpoint =>
    decide (previousCheckpointId = some checkpoint.checkpointId ∧
      previousCheckpointDigest = some checkpoint.checkpointDigest ∧
      checkpoint.sourceSetDigest = sourceSetDigest) &&
      sameJuiceboxV6ProjectRef checkpoint.project project

/-- The checkpoint and the generation that a scan continues belong together. -/
def assertAttached (expected : ScanExpectation) : Checked Unit :=
  match expected.previousCheckpoint, expected.previousGeneration with
  | none, none => .ok ()
  | some checkpoint, some generation => do
    if ¬ sameJuiceboxV6ProjectRef checkpoint.project generation.project ∨
        checkpoint.deploymentManifestId ≠ generation.project.deploymentManifestId ∨
        checkpoint.lastGenerationId ≠ generation.generationId ∨
        checkpoint.lastGenerationSequence ≠ generation.sequence then
      invalid "Authority transition checkpoint is detached from its exact predecessor generation."
    else do
      let left ← sha256AuthorityDigest H (cursorJson checkpoint.lastTransitionCursor)
      let right ← sha256AuthorityDigest H (cursorJson generation.transitionCursor)
      if left ≠ right then
        invalid ("Authority transition checkpoint is detached from its exact predecessor " ++
          "generation.")
      else .ok ()
  | _, _ => invalid ("Authority transition checkpoint and predecessor generation must advance " ++
      "together.")

def assertHistory (expected : ScanExpectation) (record : Members)
    (generations : List AuthorityGeneration) (last : AuthorityGeneration)
    (rangeTransitionCount : Nat) (cumulativeTransitionCount : Uint256Decimal)
    (transitionsDigest : Hash32) : Checked Unit :=
  if rangeTransitionCount ≠ generations.length ∨
      cumulativeTransitionCount.val ≠ ((expected.previousCheckpoint.map fun checkpoint =>
        checkpoint.cumulativeTransitionCount.val).getD 0) + generations.length ∨
      ¬ (property record "lastGenerationId").isText last.generationId.val ∨
      ¬ (property record "lastGenerationSequence").isText last.sequence.val.repr then
    invalid "Authority transition checkpoint omits or rewrites transition history."
  else do
    let digest ← sha256AuthorityDigest H (.record
      [("kind", .text "finalized-authority-transitions.v1"),
        ("generations", .array (generations.map generationJson))])
    if transitionsDigest ≠ digest then
      invalid "Authority transition checkpoint omits or rewrites transition history."
    else .ok ()

/-- The parts of a checkpoint record that do not depend on the generations. -/
structure CheckpointHead where
  project : JuiceboxV6ProjectRef
  deploymentManifestId : AuthorityId
  adapterRevision : AuthorityId
  sourceSetDigest : Hash32
  previousCheckpointId : Option AuthorityId
  previousCheckpointDigest : Option Hash32
  rangeStartBlockNumber : Uint256Decimal
  verifiedThroughBlock : FinalizedBlockAnchor

def parsePins (policy : FinalityPolicy) (expected : ScanExpectation) (record : Members) :
    Checked (JuiceboxV6ProjectRef × AuthorityId × AuthorityId × Hash32) := do
  let project ← parseJuiceboxV6ProjectRef (property record "project") "project"
  let deploymentManifestId ← parseAuthorityId (property record "deploymentManifestId")
    "transition checkpoint deployment manifest ID"
  let adapterRevision ← parseAuthorityId (property record "adapterRevision")
    "transition checkpoint adapter revision"
  let sourceSetDigest ← parseHash32 (property record "sourceSetDigest")
    "transition source-set digest"
  if ¬ sameJuiceboxV6ProjectRef project expected.project ∨ project.chainId ≠ policy.chainId ∨
      deploymentManifestId ≠ project.deploymentManifestId ∨
      deploymentManifestId ≠ expected.project.deploymentManifestId ∨
      adapterRevision ≠ expected.adapterRevision then
    invalid "Authority transition checkpoint is not manifest-pinned."
  else do
    let digest ← computeAuthorityTransitionSourceSetDigest H expected.sources
    if sourceSetDigest ≠ digest then
      invalid "Authority transition checkpoint is not manifest-pinned."
    else .ok (project, deploymentManifestId, adapterRevision, sourceSetDigest)

def parseCheckpointHead (policy : FinalityPolicy) (expected : ScanExpectation)
    (record : Members) : Checked CheckpointHead := do
  let (project, deploymentManifestId, adapterRevision, sourceSetDigest) ←
    parsePins H policy expected record
  let previousCheckpointId ← parseNullable (property record "previousCheckpointId")
    fun value => parseAuthorityId value "previous transition checkpoint ID"
  let previousCheckpointDigest ← parseNullable (property record "previousCheckpointDigest")
    fun value => parseHash32 value "previous transition checkpoint digest"
  let rangeStartBlockNumber ← parseUint256Decimal (property record "rangeStartBlockNumber")
    "transition scan range start"
  if ¬ namesPrevious expected project sourceSetDigest previousCheckpointId
      previousCheckpointDigest ∨ rangeStartBlockNumber.val ≠ expectedRangeStart expected then
    invalid "Authority transition scan has a checkpoint gap or replay."
  else do
    let verifiedThroughBlock ← parseFinalizedBlockAnchor (property record "verifiedThroughBlock")
      policy expected.now
    let scanned ← sha256AuthorityDigest H (anchorJson verifiedThroughBlock)
    let asked ← sha256AuthorityDigest H (anchorJson expected.verifiedThroughBlock)
    if scanned ≠ asked ∨
        verifiedThroughBlock.blockNumber.val < rangeStartBlockNumber.val then
      invalid "Authority transition scan ended at another finalized head."
    else .ok ⟨project, deploymentManifestId, adapterRevision, sourceSetDigest,
      previousCheckpointId, previousCheckpointDigest, rangeStartBlockNumber, verifiedThroughBlock⟩

def parseCheckpointBody (expected : ScanExpectation) (record : Members) (head : CheckpointHead)
    (generations : List AuthorityGeneration) (last : AuthorityGeneration) :
    Checked CheckpointBody := do
  let rangeTransitionCount ← parseSafeCount (property record "rangeTransitionCount")
    "range transition count" 10000
  let cumulativeTransitionCount ← parseUint256Decimal
    (property record "cumulativeTransitionCount") "cumulative transition count"
  let transitionsDigest ← parseHash32 (property record "transitionsDigest")
    "authority transitions digest"
  assertHistory H expected record generations last rangeTransitionCount
    cumulativeTransitionCount transitionsDigest
  let lastTransitionCursor ← parseAuthorityTransitionCursor
    (property record "lastTransitionCursor") head.deploymentManifestId last.activatedAtBlock
  let named ← sha256AuthorityDigest H (cursorJson lastTransitionCursor)
  let final ← sha256AuthorityDigest H (cursorJson last.transitionCursor)
  if named ≠ final then
    invalid "Authority transition checkpoint names another final cursor."
  else do
    let checkpointId ← parseAuthorityId (property record "checkpointId")
      "authority transition checkpoint ID"
    .ok ⟨checkpointId, head.project, head.deploymentManifestId, head.adapterRevision,
      head.sourceSetDigest, head.previousCheckpointId, head.previousCheckpointDigest,
      head.rangeStartBlockNumber, head.verifiedThroughBlock, rangeTransitionCount,
      cumulativeTransitionCount, last.generationId, last.sequence, lastTransitionCursor,
      transitionsDigest⟩

/-- The checkpoint has an identifier of its own and commits to its body. -/
def sealCheckpoint (expected : ScanExpectation) (record : Members) (body : CheckpointBody) :
    Checked AuthorityTransitionScanCheckpoint :=
  if expected.previousCheckpoint.map (fun checkpoint => checkpoint.checkpointId) =
      some body.checkpointId then
    invalid "Authority transition checkpoint ID cannot be replayed."
  else do
    let checkpointDigest ← parseHash32 (property record "checkpointDigest")
      "authority transition checkpoint digest"
    let digest ← sha256AuthorityDigest H (.record
      [("kind", .text "authority-transition-scan-checkpoint-digest.v1"),
        ("checkpoint", checkpointJson body)])
    if checkpointDigest ≠ digest then
      invalid "Authority transition checkpoint digest is not canonical."
    else .ok ⟨body, checkpointDigest⟩

def scanItems (value : JsonValue) : Checked (List JsonValue) :=
  match value with
  | .array items =>
    if 10000 < items.length then
      invalid "Authority transition scan result is outside its safe bound."
    else .ok items
  | _ => invalid "Authority transition scan result is outside its safe bound."

def parseFinalizedAuthorityTransitionScan (value : JsonValue) (policy : FinalityPolicy)
    (expected : ScanExpectation) : Checked FinalizedAuthorityTransitionScan := do
  let scanRecord ← expectExactRecord value ["kind", "checkpoint", "generations"]
    "finalized authority transition scan"
  if ¬ (property scanRecord "kind").isText "finalized-authority-transition-scan.v1" then
    invalid "Finalized authority transition scan kind is unsupported."
  else do
    let items ← scanItems (property scanRecord "generations")
    let record ← expectExactRecord (property scanRecord "checkpoint")
      ["kind", "checkpointId", "project", "deploymentManifestId", "adapterRevision",
        "sourceSetDigest", "previousCheckpointId", "previousCheckpointDigest",
        "rangeStartBlockNumber", "verifiedThroughBlock", "rangeTransitionCount",
        "cumulativeTransitionCount", "lastGenerationId", "lastGenerationSequence",
        "lastTransitionCursor", "transitionsDigest", "checkpointDigest"]
      "authority transition scan checkpoint"
    if ¬ (property record "kind").isText "authority-transition-scan-checkpoint.v1" then
      invalid "Authority transition checkpoint kind is unsupported."
    else do
      let head ← parseCheckpointHead H policy expected record
      assertAttached H expected
      let generations ← parseGenerations policy expected.now expected.sources
        head.rangeStartBlockNumber.val head.verifiedThroughBlock.blockNumber.val
        expected.previousGeneration items
      match lastGeneration expected.previousGeneration generations with
      | none => invalid "Initial authority transition scan cannot omit the root generation."
      | some last => do
        let body ← parseCheckpointBody H expected record head generations last
        let checkpoint ← sealCheckpoint H expected record body
        .ok ⟨checkpoint, generations⟩

end

end JbChat.Authority.Transitions
