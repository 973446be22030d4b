/- source: src/production/authority/delegations.ts
   digest: Evidence of a lost authority, and the tombstone that records the loss. -/

import JbChat.Authority.GenerationReuse
import JbChat.Authority.ScanAcceptance

/-!
The evidence names its predecessor, its tombstone and its place. The tombstone is recorded when the
checks of a generation, of a successor and of transition evidence all pass for it.
-/

set_option autoImplicit false

namespace JbChat.Authority.AuthorityLoss

open Foundation.HashTrace Foundation.Transaction
open ValueObjects Digests Finality Transitions TransitionHistory ScanRendering ScanAcceptance
open GenerationReuse

def lossCauses : List AuthorityTransitionCause :=
  [.revnetOperatorRelinquished, .projectOwnerBurned, .canonicalAuthorityDisabled]

abbrev LossCause := { cause : AuthorityTransitionCause // cause ∈ lossCauses }

/-- The kind of a root that can be lost. -/
abbrev HeldRootKind := { rootKind : RootKind // rootKind ≠ .noCurrentAuthority }

/-- The varying fields of a successor tombstone. -/
structure SuccessorTombstone where
  generationId : AuthorityId
  sequence : Uint256Decimal
  transitionCause : LossCause

/-- Loss evidence without its own digest. -/
structure LossBody where
  evidenceId : AuthorityId
  project : JuiceboxV6ProjectRef
  predecessorGenerationId : AuthorityId
  predecessorGenerationSequence : Uint256Decimal
  predecessorPrincipal : EthereumAddress
  predecessorRootKind : HeldRootKind
  transitionCause : LossCause
  block : FinalizedBlockAnchor
  transitionCursor : AuthorityTransitionCursor
  successorTombstone : SuccessorTombstone
  scannerCheckpointId : AuthorityId
  scannerCheckpointDigest : Hash32

structure FinalizedAuthorityLossEvidence extends LossBody where
  evidenceDigest : Hash32

structure LossExpectation where
  predecessor : AuthorityGeneration
  scannerCheckpointId : AuthorityId
  scannerCheckpointDigest : Hash32
  now : CanonicalInstant

inductive RootRole where
  | projectOwner
  | revnetOperator

/-- The fields of a verified root that transition evidence is compared by. -/
structure VerifiedRoot where
  role : RootRole
  project : JuiceboxV6ProjectRef
  principal : EthereumAddress
  evidenceId : AuthorityId
  evidenceDigest : Hash32
  block : FinalizedBlockAnchor
  transitionCursor : AuthorityTransitionCursor

inductive TransitionEvidence where
  | root (evidence : VerifiedRoot)
  | loss (evidence : FinalizedAuthorityLossEvidence)

def tombstoneJson (tombstone : SuccessorTombstone) : JsonValue :=
  .record [("generationId", .text tombstone.generationId.val),
    ("sequence", decimal tombstone.sequence),
    ("transitionCause", .text tombstone.transitionCause.val.text),
    ("authorityStatus", .text "disabled"), ("rootKind", .text "no-current-authority"),
    ("rootPrincipal", .null)]

def lossMembers (body : LossBody) : Members :=
  [("kind", .text "finalized-project-authority-loss.v1"),
    ("evidenceId", .text body.evidenceId.val), ("project", projectJson body.project),
    ("predecessorGenerationId", .text body.predecessorGenerationId.val),
    ("predecessorGenerationSequence", decimal body.predecessorGenerationSequence),
    ("predecessorPrincipal", .text body.predecessorPrincipal.val),
    ("predecessorRootKind", .text body.predecessorRootKind.val.text),
    ("transitionCause", .text body.transitionCause.val.text), ("block", anchorJson body.block),
    ("transitionCursor", cursorJson body.transitionCursor),
    ("successorTombstone", tombstoneJson body.successorTombstone),
    ("scannerCheckpointId", .text body.scannerCheckpointId.val),
    ("scannerCheckpointDigest", .text body.scannerCheckpointDigest.val),
    ("requiredAction", .text "revoke-leases-delegations-and-rekey")]

/-- The members of evidence as its scanner reports it. -/
def evidenceMembers (evidence : FinalizedAuthorityLossEvidence) : Members :=
  (lossMembers evidence.toLossBody).take 2 ++
    ("evidenceDigest", .text evidence.evidenceDigest.val) ::
      (lossMembers evidence.toLossBody).drop 2

section

variable (H : HashFunction)

/-- Positive when the left place comes after the right one. -/
def compareBlockAndTransitionCursor (leftBlock : FinalizedBlockAnchor)
    (leftCursor : AuthorityTransitionCursor) (rightBlock : FinalizedBlockAnchor)
    (rightCursor : AuthorityTransitionCursor) : Checked Int :=
  if leftBlock.blockNumber ≠ rightBlock.blockNumber then
    .ok (if rightBlock.blockNumber.val < leftBlock.blockNumber.val then 1 else -1)
  else if leftBlock.blockHash ≠ rightBlock.blockHash then
    invalid "Authority transitions in one block disagree on its canonical hash."
  else .ok (compareTransitionCursors leftCursor rightCursor)

def parseLossCause (value : JsonValue) : Checked LossCause :=
  match value with
  | .text "revnet-operator-relinquished" => .ok ⟨.revnetOperatorRelinquished, by decide⟩
  | .text "project-owner-burned" => .ok ⟨.projectOwnerBurned, by decide⟩
  | .text "canonical-authority-disabled" => .ok ⟨.canonicalAuthorityDisabled, by decide⟩
  | _ => invalid "Finalized authority loss evidence is invalid."

/-- The predecessor that the evidence names is the expected one, which holds a root. -/
def parseLossPredecessor (policy : FinalityPolicy) (predecessor : AuthorityGeneration)
    (record : Members) :
    Checked (JuiceboxV6ProjectRef × AuthorityId × Uint256Decimal × EthereumAddress ×
      HeldRootKind) := do
  let project ← parseJuiceboxV6ProjectRef (property record "project") "project"
  let generationId ← parseAuthorityId (property record "predecessorGenerationId")
    "authority loss predecessor generation ID"
  let sequence ← parseUint256Decimal (property record "predecessorGenerationSequence")
    "authority loss predecessor generation sequence"
  let principal ← parseEthereumAddress (property record "predecessorPrincipal")
    "previous authority principal"
  if project.chainId ≠ policy.chainId ∨
      ¬ sameJuiceboxV6ProjectRef project predecessor.project ∨
      predecessor.authorityStatus ≠ .active ∨ predecessor.rootPrincipal = none ∨
      generationId ≠ predecessor.generationId ∨ sequence ≠ predecessor.sequence ∨
      some principal ≠ predecessor.rootPrincipal ∨
      ¬ (property record "predecessorRootKind").isText predecessor.rootKind.text then
    invalid "Authority loss evidence is detached from its exact predecessor."
  else if h : predecessor.rootKind = .noCurrentAuthority then
    invalid "Authority loss evidence is detached from its exact predecessor."
  else .ok (project, generationId, sequence, principal, ⟨predecessor.rootKind, h⟩)

def parseSuccessorTombstone (value : JsonValue) (cause : LossCause) :
    Checked SuccessorTombstone := do
  let record ← expectExactRecord value
    ["generationId", "sequence", "transitionCause", "authorityStatus", "rootKind",
      "rootPrincipal"]
    "authority loss successor tombstone"
  if ¬ (property record "authorityStatus").isText "disabled" ∨
      ¬ (property record "rootKind").isText "no-current-authority" ∨
      ¬ (property record "rootPrincipal").isNull ∨
      ¬ (property record "transitionCause").isText cause.val.text then
    invalid "Authority loss successor must be an explicit disabled tombstone."
  else do
    let generationId ← parseAuthorityId (property record "generationId")
      "authority loss successor generation ID"
    let sequence ← parseUint256Decimal (property record "sequence")
      "authority loss successor generation sequence"
    .ok ⟨generationId, sequence, cause⟩

/-- The tombstone comes behind the predecessor, in its numbers and in its place. -/
def assertLossFollows (predecessor : AuthorityGeneration) (tombstone : SuccessorTombstone)
    (block : FinalizedBlockAnchor) (cursor : AuthorityTransitionCursor) : Checked Unit :=
  if tombstone.generationId = predecessor.generationId ∨
      tombstone.sequence.val ≠ predecessor.sequence.val + 1 then
    invalid "Authority loss successor does not follow its exact predecessor."
  else do
    let order ← compareBlockAndTransitionCursor block cursor predecessor.activatedAtBlock
      predecessor.transitionCursor
    if order ≤ 0 then invalid "Authority loss successor does not follow its exact predecessor."
    else .ok ()

/-- The evidence has an identifier of its own and commits to its body. -/
def sealLoss (record : Members) (body : AuthorityId → LossBody) :
    Checked FinalizedAuthorityLossEvidence := do
  let evidenceId ← parseAuthorityId (property record "evidenceId") "authority loss evidence ID"
  let evidenceDigest ← parseHash32 (property record "evidenceDigest") "authority loss digest"
  let digest ← sha256AuthorityDigest H (.record
    [("kind", .text "finalized-project-authority-loss-evidence.v1"),
      ("evidence", .record (lossMembers (body evidenceId)))])
  if evidenceDigest ≠ digest then invalid "Authority loss evidence digest is not canonical."
  else .ok ⟨body evidenceId, evidenceDigest⟩

def parseFinalizedAuthorityLossEvidence (value : JsonValue) (policy : FinalityPolicy)
    (expected : LossExpectation) : Checked FinalizedAuthorityLossEvidence := do
  let record ← expectExactRecord value
    ["kind", "evidenceId", "evidenceDigest", "project", "predecessorGenerationId",
      "predecessorGenerationSequence", "predecessorPrincipal", "predecessorRootKind",
      "transitionCause", "block", "transitionCursor", "successorTombstone",
      "scannerCheckpointId", "scannerCheckpointDigest", "requiredAction"]
    "finalized authority loss evidence"
  let cause ← parseLossCause (property record "transitionCause")
  if ¬ (property record "kind").isText "finalized-project-authority-loss.v1" ∨
      ¬ (property record "requiredAction").isText "revoke-leases-delegations-and-rekey" then
    invalid "Finalized authority loss evidence is invalid."
  else do
    let (project, generationId, sequence, principal, rootKind) ←
      parseLossPredecessor policy expected.predecessor record
    if (cause.val = .revnetOperatorRelinquished ∧ rootKind.val ≠ .revnetOperatorSet) ∨
        (cause.val = .projectOwnerBurned ∧ rootKind.val ≠ .jbprojectsOwner) then
      invalid "Authority loss cause does not match the predecessor authority mode."
    else do
      let block ← parseFinalizedBlockAnchor (property record "block") policy expected.now
      let cursor ← parseAuthorityTransitionCursor (property record "transitionCursor")
        project.deploymentManifestId block
      let tombstone ← parseSuccessorTombstone (property record "successorTombstone") cause
      assertLossFollows expected.predecessor tombstone block cursor
      let checkpointId ← parseAuthorityId (property record "scannerCheckpointId")
        "authority scanner checkpoint ID"
      let checkpointDigest ← parseHash32 (property record "scannerCheckpointDigest")
        "authority scanner checkpoint digest"
      if checkpointId ≠ expected.scannerCheckpointId ∨
          checkpointDigest ≠ expected.scannerCheckpointDigest then
        invalid "Authority loss evidence uses another scanner checkpoint."
      else sealLoss H record fun evidenceId => ⟨evidenceId, project, generationId, sequence,
        principal, rootKind, cause, block, cursor, tombstone, checkpointId, checkpointDigest⟩

def assertEvidenceAttached (generation : AuthorityGeneration) (project : JuiceboxV6ProjectRef)
    (evidenceId : AuthorityId) (evidenceDigest : Hash32) (block : FinalizedBlockAnchor)
    (cursor : AuthorityTransitionCursor) : Checked Unit :=
  if ¬ sameJuiceboxV6ProjectRef generation.project project ∨
      generation.rootEvidenceId ≠ evidenceId ∨ generation.rootEvidenceDigest ≠ evidenceDigest ∨
      generation.activatedAtBlock.blockNumber ≠ block.blockNumber ∨
      generation.activatedAtBlock.blockHash ≠ block.blockHash then
    invalid "Authority generation is detached from its canonical transition evidence."
  else do
    let left ← sha256AuthorityDigest H (cursorJson generation.transitionCursor)
    let right ← sha256AuthorityDigest H (cursorJson cursor)
    if left ≠ right then
      invalid "Authority generation is detached from its canonical transition evidence."
    else .ok ()

def assertAuthorityGenerationTransitionEvidence (generation : AuthorityGeneration) :
    TransitionEvidence → Checked Unit
  | .loss evidence => do
    assertEvidenceAttached H generation evidence.project evidence.evidenceId
      evidence.evidenceDigest evidence.block evidence.transitionCursor
    if generation.authorityStatus ≠ .disabled ∨ generation.rootKind ≠ .noCurrentAuthority ∨
        generation.rootPrincipal ≠ none ∨
        generation.generationId ≠ evidence.successorTombstone.generationId ∨
        generation.sequence ≠ evidence.successorTombstone.sequence ∨
        generation.transitionCause ≠ evidence.successorTombstone.transitionCause.val ∨
        generation.predecessorGenerationId ≠ some evidence.predecessorGenerationId then
      invalid "Authority loss evidence must create its exact disabled successor tombstone."
    else .ok ()
  | .root evidence => do
    assertEvidenceAttached H generation evidence.project evidence.evidenceId
      evidence.evidenceDigest evidence.block evidence.transitionCursor
    let expectedRootKind := match evidence.role with
      | .projectOwner => RootKind.jbprojectsOwner
      | .revnetOperator => RootKind.revnetOperatorSet
    if generation.authorityStatus ≠ .active ∨ generation.rootKind ≠ expectedRootKind ∨
        generation.rootPrincipal ≠ some evidence.principal then
      invalid "Active authority generation does not match its verified root."
    else .ok ()

/-- The disabled generation that evidence stands for. -/
def tombstoneGeneration (evidence : FinalizedAuthorityLossEvidence) : AuthorityGeneration where
  generationId := evidence.successorTombstone.generationId
  project := evidence.project
  sequence := evidence.successorTombstone.sequence
  transitionCause := evidence.successorTombstone.transitionCause.val
  authorityStatus := .disabled
  rootKind := .noCurrentAuthority
  rootPrincipal := none
  rootEvidenceId := evidence.evidenceId
  rootEvidenceDigest := evidence.evidenceDigest
  activatedAtBlock := evidence.block
  transitionCursor := evidence.transitionCursor
  predecessorGenerationId := some evidence.predecessorGenerationId

/-- All checks of the tombstone pass, so that it takes the predecessor's place. -/
structure Recordable (policy : FinalityPolicy) (now : CanonicalInstant)
    (predecessor : AuthorityGeneration) (evidence : FinalizedAuthorityLossEvidence) : Prop where
  parsed : parseAuthorityGeneration (generationJson (tombstoneGeneration evidence)) policy now =
    .ok (tombstoneGeneration evidence)
  successor : assertSuccessorAuthorityGeneration predecessor (tombstoneGeneration evidence) = .ok ()
  attached : assertAuthorityGenerationTransitionEvidence H (tombstoneGeneration evidence)
    (.loss evidence) = .ok ()

end

section

variable {H : HashFunction} {policy : FinalityPolicy} {expected : LossExpectation}
  {value : JsonValue} {record : Members} {evidence : FinalizedAuthorityLossEvidence}

/-- What accepted evidence says about its predecessor and its tombstone. -/
structure Lost (policy : FinalityPolicy) (expected : LossExpectation) (body : LossBody) : Prop where
  project : body.project = expected.predecessor.project
  chain : body.project.chainId = policy.chainId
  active : expected.predecessor.authorityStatus = .active
  generationId : body.predecessorGenerationId = expected.predecessor.generationId
  generationSequence : body.predecessorGenerationSequence = expected.predecessor.sequence
  principal : some body.predecessorPrincipal = expected.predecessor.rootPrincipal
  rootKind : body.predecessorRootKind.val = expected.predecessor.rootKind
  mode : (body.transitionCause.val = .revnetOperatorRelinquished →
      body.predecessorRootKind.val = .revnetOperatorSet) ∧
    (body.transitionCause.val = .projectOwnerBurned →
      body.predecessorRootKind.val = .jbprojectsOwner)
  anchored : Anchored policy expected.now body.block
  manifest : body.transitionCursor.deploymentManifestId = body.project.deploymentManifestId
  place : body.transitionCursor.blockNumber = body.block.blockNumber ∧
    body.transitionCursor.blockHash = body.block.blockHash
  cause : body.successorTombstone.transitionCause = body.transitionCause
  distinct : body.successorTombstone.generationId ≠ expected.predecessor.generationId
  sequence : body.successorTombstone.sequence.val = expected.predecessor.sequence.val + 1
  later : ∃ order, compareBlockAndTransitionCursor body.block body.transitionCursor
    expected.predecessor.activatedAtBlock expected.predecessor.transitionCursor = .ok order ∧
      0 < order
  checkpoint : body.scannerCheckpointId = expected.scannerCheckpointId ∧
    body.scannerCheckpointDigest = expected.scannerCheckpointDigest

theorem compareBlock_pos {leftBlock rightBlock : FinalizedBlockAnchor}
    {leftCursor rightCursor : AuthorityTransitionCursor} {order : Int}
    (h : compareBlockAndTransitionCursor leftBlock leftCursor rightBlock rightCursor = .ok order)
    (positive : 0 < order) : rightBlock.blockNumber.val ≤ leftBlock.blockNumber.val ∧
      (leftBlock.blockNumber = rightBlock.blockNumber →
        leftBlock.blockHash = rightBlock.blockHash ∧
          0 < compareTransitionCursors leftCursor rightCursor) := by
  unfold compareBlockAndTransitionCursor at h
  split at h
  next different =>
    cases h
    split at positive
    next before => exact ⟨before.le, fun same => absurd same different⟩
    next => exact absurd positive (by decide)
  next same =>
    obtain ⟨hhash, h⟩ := guard_ok.mp h
    cases h
    have hnumber := congrArg Subtype.val (not_not.mp same)
    exact ⟨hnumber.ge, fun _ => ⟨not_not.mp hhash, positive⟩⟩

theorem assertLossFollows_eq_ok {predecessor : AuthorityGeneration}
    {tombstone : SuccessorTombstone} {block : FinalizedBlockAnchor}
    {cursor : AuthorityTransitionCursor} :
    assertLossFollows predecessor tombstone block cursor = .ok () ↔
      tombstone.generationId ≠ predecessor.generationId ∧
      tombstone.sequence.val = predecessor.sequence.val + 1 ∧
      ∃ order, compareBlockAndTransitionCursor block cursor predecessor.activatedAtBlock
        predecessor.transitionCursor = .ok order ∧ 0 < order := by
  unfold assertLossFollows
  refine guard_ok.trans ?_
  rw [not_or, not_not, and_assoc]
  refine and_congr Iff.rfl (and_congr Iff.rfl ?_)
  refine bind_ok.trans (exists_congr fun order => ?_)
  refine and_congr Iff.rfl (guard_ok.trans ?_)
  rw [not_le]
  exact and_iff_left rfl

theorem parseSuccessorTombstone_eq_ok {cause : LossCause} {tombstone : SuccessorTombstone}
    (h : parseSuccessorTombstone value cause = .ok tombstone) :
    tombstone.transitionCause = cause := by
  unfold parseSuccessorTombstone at h
  obtain ⟨record, -, h⟩ := bind_ok.mp h
  obtain ⟨-, h⟩ := guard_ok.mp h
  obtain ⟨generationId, -, h⟩ := bind_ok.mp h
  obtain ⟨sequence, -, h⟩ := bind_ok.mp h
  cases h
  rfl

theorem sealLoss_eq_ok {body : AuthorityId → LossBody}
    (h : sealLoss H record body = .ok evidence) :
    ∃ evidenceId, evidence.toLossBody = body evidenceId := by
  unfold sealLoss at h
  obtain ⟨evidenceId, -, h⟩ := bind_ok.mp h
  obtain ⟨evidenceDigest, -, h⟩ := bind_ok.mp h
  obtain ⟨digest, -, h⟩ := bind_ok.mp h
  obtain ⟨-, h⟩ := guard_ok.mp h
  cases h
  exact ⟨evidenceId, rfl⟩

theorem lost_of_parse
    (h : parseFinalizedAuthorityLossEvidence H value policy expected = .ok evidence) :
    Lost policy expected evidence.toLossBody := by
  unfold parseFinalizedAuthorityLossEvidence at h
  obtain ⟨record, -, h⟩ := bind_ok.mp h
  obtain ⟨cause, -, h⟩ := bind_ok.mp h
  obtain ⟨-, h⟩ := guard_ok.mp h
  obtain ⟨⟨project, generationId, sequence, principal, rootKind⟩, hpredecessor, h⟩ :=
    bind_ok.mp h
  obtain ⟨hmode, h⟩ := guard_ok.mp h
  obtain ⟨block, hblock, h⟩ := bind_ok.mp h
  obtain ⟨cursor, hcursor, h⟩ := bind_ok.mp h
  obtain ⟨tombstone, htombstone, h⟩ := bind_ok.mp h
  obtain ⟨⟨⟩, hfollows, h⟩ := bind_ok.mp h
  obtain ⟨checkpointId, -, h⟩ := bind_ok.mp h
  obtain ⟨checkpointDigest, -, h⟩ := bind_ok.mp h
  obtain ⟨hcheckpoint, h⟩ := guard_ok.mp h
  obtain ⟨evidenceId, hbody⟩ := sealLoss_eq_ok h
  unfold parseLossPredecessor at hpredecessor
  obtain ⟨parsedProject, -, h1⟩ := bind_ok.mp hpredecessor
  obtain ⟨parsedId, -, h2⟩ := bind_ok.mp h1
  obtain ⟨parsedSequence, -, h3⟩ := bind_ok.mp h2
  obtain ⟨parsedPrincipal, -, h4⟩ := bind_ok.mp h3
  obtain ⟨hattached, h5⟩ := guard_ok.mp h4
  split at h5
  next => cases h5
  next held =>
    obtain ⟨rfl, rfl, rfl, rfl, rfl⟩ := Prod.mk.inj (Except.ok.inj h5) |>.imp id fun rest =>
      (Prod.mk.inj rest).imp id fun rest => (Prod.mk.inj rest).imp id Prod.mk.inj
    push Not at hattached hmode hcheckpoint
    obtain ⟨hchain, hproject, hactive, -, hid, hsequence, hprincipal, -⟩ := hattached
    obtain ⟨hmanifest, hplace⟩ := parseCursor_eq_ok hcursor
    obtain ⟨hdistinct, hnext, hlater⟩ := assertLossFollows_eq_ok.mp hfollows
    rw [hbody]
    exact
      { project := sameJuiceboxV6ProjectRef_iff.mp hproject
        chain := hchain
        active := hactive
        generationId := hid
        generationSequence := hsequence
        principal := hprincipal
        rootKind := rfl
        mode := hmode
        anchored := anchored_of_parse hblock
        manifest := hmanifest
        place := hplace
        cause := parseSuccessorTombstone_eq_ok htombstone
        distinct := hdistinct
        sequence := hnext
        later := hlater
        checkpoint := hcheckpoint }

end

section

variable {H : HashFunction} {policy : FinalityPolicy} {expected : LossExpectation}
  {evidence : FinalizedAuthorityLossEvidence}

theorem parseLossCause_text (cause : LossCause) :
    parseLossCause (.text cause.val.text) = .ok cause := by
  obtain ⟨cause, hcause⟩ := cause
  unfold lossCauses at hcause
  simp only [List.mem_cons, List.not_mem_nil, or_false] at hcause
  rcases hcause with rfl | rfl | rfl <;> rfl

theorem parseSuccessorTombstone_tombstoneJson (tombstone : SuccessorTombstone) :
    parseSuccessorTombstone (tombstoneJson tombstone) tombstone.transitionCause =
      .ok tombstone := by
  unfold parseSuccessorTombstone tombstoneJson
  rw [expectExactRecord_of_keys]
  · simp only [property_cons_self, property_cons_ne, ne_eq, String.reduceEq, not_false_eq_true,
      isText_text, decide_true, not_true_eq_false, or_self, ↓reduceIte, checked_bind,
      parseAuthorityId_text, parseUint256Decimal_decimal, JsonValue.isNull]
  · rfl
  · simp [JsonValue.isUndefined, decimal]

theorem isPlain_tombstone (tombstone : SuccessorTombstone) :
    isPlain (tombstoneJson tombstone) = true := rfl

theorem isPlain_loss (body : LossBody) : isPlain (.record (lossMembers body)) = true := by
  unfold lossMembers
  simp only [isPlain_record, membersPlain_cons, isPlain_text, isPlain_decimal, isPlain_project,
    isPlain_anchor, isPlain_cursor, isPlain_tombstone, membersPlain_nil, Bool.and_self]

/-- Rendered evidence is accepted as it is. -/
theorem parseLoss_evidenceMembers (lost : Lost policy expected evidence.toLossBody)
    (closed : sha256AuthorityDigest H (.record
      [("kind", .text "finalized-project-authority-loss-evidence.v1"),
        ("evidence", .record (lossMembers evidence.toLossBody))]) = .ok evidence.evidenceDigest) :
    parseFinalizedAuthorityLossEvidence H (.record (evidenceMembers evidence)) policy expected =
      .ok evidence := by
  have held : expected.predecessor.rootKind ≠ .noCurrentAuthority :=
    lost.rootKind ▸ evidence.predecessorRootKind.property
  have hkind : (⟨expected.predecessor.rootKind, held⟩ : HeldRootKind) =
      evidence.predecessorRootKind := Subtype.ext lost.rootKind.symm
  have hpredecessor : parseLossPredecessor policy expected.predecessor
      (evidenceMembers evidence) =
        .ok (evidence.project, evidence.predecessorGenerationId,
          evidence.predecessorGenerationSequence, evidence.predecessorPrincipal,
          evidence.predecessorRootKind) := by
    unfold parseLossPredecessor
    simp only [evidenceMembers, lossMembers, List.take_succ_cons, List.take_zero,
      List.drop_succ_cons, List.drop_zero, List.cons_append, List.nil_append, property_cons_self,
      property_cons_ne, ne_eq, String.reduceEq, not_false_eq_true, isText_text,
      parseJuiceboxV6ProjectRef_projectJson, parseAuthorityId_text, parseUint256Decimal_decimal,
      parseEthereumAddress_text, checked_bind]
    rw [if_neg, dif_neg held, hkind]
    push Not
    refine ⟨lost.chain, sameJuiceboxV6ProjectRef_iff.mpr lost.project, lost.active,
      fun h => ?_, lost.generationId, lost.generationSequence, lost.principal,
      decide_eq_true (congrArg RootKind.text lost.rootKind)⟩
    have hprincipal := lost.principal
    rw [h] at hprincipal
    cases hprincipal
  have hmode : ¬ ((evidence.transitionCause.val = .revnetOperatorRelinquished ∧
        evidence.predecessorRootKind.val ≠ .revnetOperatorSet) ∨
      (evidence.transitionCause.val = .projectOwnerBurned ∧
        evidence.predecessorRootKind.val ≠ .jbprojectsOwner)) := by
    push Not
    exact lost.mode
  have hcursor := parseAuthorityTransitionCursor_cursorJson lost.place.1 lost.place.2
  rw [lost.manifest] at hcursor
  have htombstone := parseSuccessorTombstone_tombstoneJson evidence.successorTombstone
  rw [lost.cause] at htombstone
  have hfollows := assertLossFollows_eq_ok.mpr ⟨lost.distinct, lost.sequence, lost.later⟩
  have hcheckpoint : ¬ (evidence.scannerCheckpointId ≠ expected.scannerCheckpointId ∨
      evidence.scannerCheckpointDigest ≠ expected.scannerCheckpointDigest) := by
    push Not
    exact lost.checkpoint
  have hbody : sealLoss H (evidenceMembers evidence) (fun evidenceId =>
      { evidence.toLossBody with evidenceId := evidenceId }) = .ok evidence := by
    unfold sealLoss
    simp only [evidenceMembers, lossMembers, List.take_succ_cons, List.take_zero,
      List.drop_succ_cons, List.drop_zero, List.cons_append, List.nil_append, property_cons_self,
      property_cons_ne, ne_eq, String.reduceEq, not_false_eq_true, parseAuthorityId_text,
      parseHash32_text, checked_bind]
    rw [lossMembers] at closed
    rw [closed, checked_bind, if_neg (not_not.mpr rfl)]
  unfold parseFinalizedAuthorityLossEvidence
  rw [expectExactRecord_of_keys, checked_bind, hpredecessor]
  · simp only [evidenceMembers, lossMembers, List.take_succ_cons, List.take_zero,
      List.drop_succ_cons, List.drop_zero, List.cons_append, List.nil_append, property_cons_self,
      property_cons_ne, ne_eq, String.reduceEq, not_false_eq_true, isText_text, decide_true,
      not_true_eq_false, or_self, ↓reduceIte, parseLossCause_text, checked_bind,
      parseAuthorityId_text, parseHash32_text]
    rw [if_neg hmode, parseFinalizedBlockAnchor_anchorJson lost.anchored, checked_bind, hcursor,
      checked_bind, htombstone, checked_bind, hfollows, checked_bind, if_neg hcheckpoint]
    exact hbody
  · rfl
  · simp only [evidenceMembers, lossMembers, List.take_succ_cons, List.take_zero,
      List.drop_succ_cons, List.drop_zero, List.cons_append, List.nil_append, List.forall_mem_cons]
    exact ⟨rfl, rfl, rfl, rfl, rfl, rfl, rfl, rfl, rfl, rfl, rfl, rfl, rfl, rfl, rfl, nofun⟩

end

section

variable {H : HashFunction} {policy : FinalityPolicy} {expected : LossExpectation}
  {evidence : FinalizedAuthorityLossEvidence}

theorem tombstone_wellFormed (lost : Lost policy expected evidence.toLossBody)
    (numbered : expected.predecessor.sequence.val ≠ 0) :
    WellFormed policy expected.now (tombstoneGeneration evidence) where
  tombstone := ⟨iff_of_true rfl rfl, iff_of_true rfl rfl⟩
  chain := lost.chain
  sequence := by
    have hnext := lost.sequence
    have hcause : evidence.successorTombstone.transitionCause.val ≠ .bootstrap := by
      intro h
      have hmem := evidence.successorTombstone.transitionCause.property
      rw [h] at hmem
      exact absurd hmem (by decide)
    unfold assertSequence tombstoneGeneration
    dsimp only
    rw [if_neg (by omega), if_neg]
    rintro ⟨-, hnone | hbootstrap⟩
    · cases hnone
    · exact hcause hbootstrap
  anchored := lost.anchored
  manifest := lost.manifest
  number := lost.place.1
  hash := lost.place.2

theorem tombstone_cause (lost : Lost policy expected evidence.toLossBody) :
    assertTransitionCauseMatchesRoots expected.predecessor (tombstoneGeneration evidence) =
      .ok () := by
  unfold assertTransitionCauseMatchesRoots tombstoneGeneration
  dsimp only
  rw [if_pos rfl, if_neg]
  rintro ⟨hexpected, hdisabled⟩
  rw [lost.cause, ← lost.rootKind] at hexpected
  rw [lost.cause] at hdisabled
  have hcauses := evidence.transitionCause.property
  unfold lossCauses at hcauses
  rcases List.mem_cons.mp hcauses with hrelinquished | hcauses
  · rw [lost.mode.1 hrelinquished] at hexpected
    exact hexpected hrelinquished
  · rcases List.mem_cons.mp hcauses with hburned | hcauses
    · rw [lost.mode.2 hburned] at hexpected
      exact hexpected hburned
    · exact hdisabled (List.mem_singleton.mp hcauses)

theorem tombstone_successor (lost : Lost policy expected evidence.toLossBody)
    (fresh : evidence.evidenceId ≠ expected.predecessor.rootEvidenceId)
    (digests : evidence.evidenceDigest ≠ expected.predecessor.rootEvidenceDigest) :
    assertSuccessorAuthorityGeneration expected.predecessor (tombstoneGeneration evidence) =
      .ok () := by
  obtain ⟨order, hcompare, hpositive⟩ := lost.later
  obtain ⟨hblock, hsame⟩ := compareBlock_pos hcompare hpositive
  unfold assertSuccessorAuthorityGeneration
  rw [if_neg, tombstone_cause lost, checked_bind, if_neg]
  · rintro ⟨same, hhash | hcursor⟩
    · exact hhash (hsame same).1
    · exact absurd (hsame same).2 (not_lt.mpr hcursor)
  · push Not
    exact ⟨sameJuiceboxV6ProjectRef_iff.mpr lost.project.symm, lost.distinct,
      congrArg some lost.generationId, fresh, digests, lost.sequence, hblock⟩

theorem tombstone_attached (H : HashFunction) (evidence : FinalizedAuthorityLossEvidence) :
    assertAuthorityGenerationTransitionEvidence H (tombstoneGeneration evidence)
      (.loss evidence) = .ok () := by
  obtain ⟨text, -, hdigest⟩ := digest_of_isPlain H (isPlain_cursor evidence.transitionCursor)
  have hattached : assertEvidenceAttached H (tombstoneGeneration evidence) evidence.project
      evidence.evidenceId evidence.evidenceDigest evidence.block evidence.transitionCursor =
        .ok () := by
    unfold assertEvidenceAttached tombstoneGeneration
    dsimp only
    rw [if_neg, hdigest, checked_bind, checked_bind, if_neg (not_not.mpr rfl)]
    push Not
    exact ⟨sameJuiceboxV6ProjectRef_iff.mpr rfl, rfl, rfl, rfl, rfl⟩
  unfold assertAuthorityGenerationTransitionEvidence
  dsimp only
  rw [hattached, checked_bind, if_neg]
  push Not
  exact ⟨rfl, rfl, rfl, rfl, rfl, rfl, rfl⟩

end

/-- The generation of an owner who burns the project in block two. -/
def heldGeneration : AuthorityGeneration :=
  sampleGeneration idA one ownerA otherHash bootstrapId .bootstrap none

def sampleLoss (evidenceId : AuthorityId) : FinalizedAuthorityLossEvidence :=
  ⟨⟨evidenceId, sampleProject, idA, one, ownerA, ⟨.jbprojectsOwner, ownerMode_ne⟩,
    ⟨.projectOwnerBurned, by decide⟩, sampleAnchor two, sampleCursor two transferId,
    ⟨idB, two, ⟨.projectOwnerBurned, by decide⟩⟩, manifest, sampleHash⟩, sampleHash⟩

def sampleExpectation : LossExpectation := ⟨heldGeneration, manifest, sampleHash, sampleInstant⟩

theorem heldGeneration_parsed :
    parseAuthorityGeneration (generationJson heldGeneration) samplePolicy sampleInstant =
      .ok heldGeneration :=
  parseAuthorityGeneration_generationJson
    ⟨by decide, rfl, rfl, sampleAnchored one, rfl, rfl, rfl⟩

theorem sampleLoss_accepted (evidenceId : AuthorityId) :
    parseFinalizedAuthorityLossEvidence zeroDigests
      (.record (evidenceMembers (sampleLoss evidenceId))) samplePolicy sampleExpectation =
        .ok (sampleLoss evidenceId) := by
  refine parseLoss_evidenceMembers ?_ (sampleDigest ?_)
  · exact
      { project := rfl
        chain := rfl
        active := rfl
        generationId := rfl
        generationSequence := rfl
        principal := rfl
        rootKind := rfl
        mode := ⟨nofun, fun _ => rfl⟩
        anchored := sampleAnchored two
        manifest := rfl
        place := ⟨rfl, rfl⟩
        cause := rfl
        distinct := by
          change idB ≠ idA
          decide
        sequence := rfl
        later := ⟨1, rfl, by decide⟩
        checkpoint := ⟨rfl, rfl⟩ }
  · rw [isPlain_record, membersPlain_cons, membersPlain_cons, isPlain_loss]
    rfl

section

variable {H : HashFunction} {policy : FinalityPolicy} {expected : LossExpectation}
  {evidence : FinalizedAuthorityLossEvidence}
  {policy' : FinalityPolicy} {now' : CanonicalInstant} {known value : JsonValue}

/-- Accepted loss evidence can be recorded exactly when its identifier is not that of the root it
is about. -/
theorem loss_recordable_iff
    (predecessor : parseAuthorityGeneration known policy' now' = .ok expected.predecessor)
    (accepted : parseFinalizedAuthorityLossEvidence H value policy expected = .ok evidence)
    (digests : evidence.evidenceDigest ≠ expected.predecessor.rootEvidenceDigest) :
    Recordable H policy expected.now expected.predecessor evidence ↔
      evidence.evidenceId ≠ expected.predecessor.rootEvidenceId := by
  have lost := lost_of_parse accepted
  have numbered : expected.predecessor.sequence.val ≠ 0 := by
    have hsequence := (wellFormed_of_parse predecessor).sequence
    unfold assertSequence at hsequence
    obtain ⟨hpositive, -⟩ := guard_ok.mp hsequence
    exact fun h => hpositive (.inl h)
  constructor
  · intro recordable
    exact (assertSuccessor_eq_ok recordable.successor).2.2.2.2.symm
  · intro fresh
    exact ⟨parseAuthorityGeneration_generationJson (tombstone_wellFormed lost numbered),
      tombstone_successor lost fresh digests, tombstone_attached H evidence⟩

/-- Evidence with an identifier of its own, for the owner who burns the project. -/
theorem loss_recordable_fresh :
    Recordable zeroDigests samplePolicy sampleInstant heldGeneration (sampleLoss idB) := by
  refine (loss_recordable_iff heldGeneration_parsed (sampleLoss_accepted idB)
    otherHash_ne.symm).mpr ?_
  change idB ≠ idA
  decide

/-- Evidence under the identifier of the owner's root is accepted, and its tombstone is refused as
a successor. -/
theorem loss_with_used_identifier :
    parseAuthorityGeneration (generationJson heldGeneration) samplePolicy sampleInstant =
        .ok heldGeneration ∧
      parseFinalizedAuthorityLossEvidence zeroDigests (.record (evidenceMembers (sampleLoss idA)))
        samplePolicy sampleExpectation = .ok (sampleLoss idA) ∧
      (sampleLoss idA).evidenceDigest ≠ heldGeneration.rootEvidenceDigest ∧
      ¬ Recordable zeroDigests samplePolicy sampleInstant heldGeneration (sampleLoss idA) := by
  refine ⟨heldGeneration_parsed, sampleLoss_accepted idA, otherHash_ne.symm, fun recordable => ?_⟩
  obtain ⟨-, -, -, -, hevidence⟩ := assertSuccessor_eq_ok recordable.successor
  exact hevidence rfl

end

end JbChat.Authority.AuthorityLoss
