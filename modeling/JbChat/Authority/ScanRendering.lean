/- source: src/production/authority/delegations.ts
   digest: A scan that is rendered as its scanner reports it is accepted as it is. -/

import JbChat.Authority.Transitions

set_option autoImplicit false

namespace JbChat.Authority.ScanRendering

open Foundation.HashTrace ValueObjects Digests Finality Transitions

@[simp] theorem isPlain_cursor (cursor : AuthorityTransitionCursor) :
    isPlain (cursorJson cursor) = true := by
  unfold cursorJson
  simp only [isPlain_record, membersPlain_cons, isPlain_text, isPlain_decimal,
    isPlain_natural cursor.transactionIndex.property, isPlain_natural cursor.logIndex.property,
    membersPlain_nil, Bool.and_self]

@[simp] theorem isPlain_source (source : AuthorityTransitionSource) :
    isPlain (sourceJson source) = true := rfl

@[simp] theorem isPlain_generation (generation : AuthorityGeneration) :
    isPlain (generationJson generation) = true := by
  have hprincipal := isPlain_nullable (fun address : EthereumAddress => isPlain_text address.val)
    generation.rootPrincipal
  have hpredecessor := isPlain_nullable (fun id : AuthorityId => isPlain_text id.val)
    generation.predecessorGenerationId
  unfold generationJson
  simp only [isPlain_record, membersPlain_cons, isPlain_text, isPlain_decimal, isPlain_project,
    isPlain_anchor, isPlain_cursor, hprincipal, hpredecessor, membersPlain_nil, Bool.and_self]

theorem isPlain_checkpoint {body : CheckpointBody} (h : body.rangeTransitionCount ≤ 10000) :
    isPlain (checkpointJson body) = true := by
  have hcount : isPlain (.integer body.rangeTransitionCount) = true :=
    isPlain_natural (h.trans (by decide))
  have hid := isPlain_nullable (fun id : AuthorityId => isPlain_text id.val)
    body.previousCheckpointId
  have hdigest := isPlain_nullable (fun digest : Hash32 => isPlain_text digest.val)
    body.previousCheckpointDigest
  unfold checkpointJson checkpointMembers
  simp only [isPlain_record, membersPlain_cons, isPlain_text, isPlain_decimal, isPlain_project,
    isPlain_anchor, isPlain_cursor, hcount, hid, hdigest, membersPlain_nil, Bool.and_self]

section

variable {policy : FinalityPolicy} {now : CanonicalInstant}

theorem parseAuthorityTransitionCause_text (cause : AuthorityTransitionCause) :
    parseAuthorityTransitionCause (.text cause.text) = .ok cause := by
  cases cause <;> rfl

theorem parseAuthorityStatus_text (status : AuthorityStatus) :
    parseAuthorityStatus (.text status.text) = .ok status := by
  cases status <;> rfl

theorem parseRootKind_text (rootKind : RootKind) :
    parseRootKind (.text rootKind.text) = .ok rootKind := by
  cases rootKind <;> rfl

theorem parseAuthorityTransitionCursor_cursorJson {cursor : AuthorityTransitionCursor}
    {block : FinalizedBlockAnchor} (number : cursor.blockNumber = block.blockNumber)
    (hash : cursor.blockHash = block.blockHash) :
    parseAuthorityTransitionCursor (cursorJson cursor) cursor.deploymentManifestId block =
      .ok cursor := by
  unfold parseAuthorityTransitionCursor cursorJson
  rw [expectExactRecord_of_keys]
  · simp only [property_cons_self, property_cons_ne, ne_eq, String.reduceEq, not_false_eq_true,
      isText_text, decide_true, not_true_eq_false, ↓reduceIte, checked_bind, parseAuthorityId_text,
      parseUint256Decimal_decimal, parseHash32_text, parseLogIndex_integer,
      parseEthereumAddress_text, number, hash, or_self]
    rw [← number, ← hash]
  · rfl
  · simp [JsonValue.isUndefined, decimal]

structure WellFormed (policy : FinalityPolicy) (now : CanonicalInstant)
    (generation : AuthorityGeneration) : Prop where
  tombstone : (generation.authorityStatus = .disabled ↔
      generation.rootKind = .noCurrentAuthority) ∧
    (generation.authorityStatus = .disabled ↔ generation.rootPrincipal = none)
  chain : generation.project.chainId = policy.chainId
  sequence : assertSequence generation.sequence generation.predecessorGenerationId
    generation.transitionCause = .ok ()
  anchored : Anchored policy now generation.activatedAtBlock
  manifest : generation.transitionCursor.deploymentManifestId =
    generation.project.deploymentManifestId
  number : generation.transitionCursor.blockNumber = generation.activatedAtBlock.blockNumber
  hash : generation.transitionCursor.blockHash = generation.activatedAtBlock.blockHash

theorem parseAuthorityGeneration_generationJson {generation : AuthorityGeneration}
    (wellFormed : WellFormed policy now generation) :
    parseAuthorityGeneration (generationJson generation) policy now = .ok generation := by
  have hcursor := parseAuthorityTransitionCursor_cursorJson wellFormed.number wellFormed.hash
  have hnull : (nullable (fun address : EthereumAddress => .text address.val)
      generation.rootPrincipal).isNull = true ↔ generation.rootPrincipal = none := by
    cases generation.rootPrincipal with
    | none => exact ⟨fun _ => rfl, fun _ => rfl⟩
    | some address =>
      exact ⟨fun h => absurd h Bool.false_ne_true, fun h => absurd h (Option.some_ne_none _)⟩
  have htombstone : assertTombstone generation.authorityStatus generation.rootKind
      (nullable (fun address : EthereumAddress => .text address.val) generation.rootPrincipal) =
        .ok () := by
    unfold assertTombstone
    rw [if_neg]
    push Not
    exact ⟨wellFormed.tombstone.1, wellFormed.tombstone.2.trans hnull.symm⟩
  rw [wellFormed.manifest] at hcursor
  unfold parseAuthorityGeneration generationJson
  rw [expectExactRecord_of_keys]
  · simp only [property_cons_self, property_cons_ne, ne_eq, String.reduceEq, not_false_eq_true,
      isText_text, decide_true, not_true_eq_false, ↓reduceIte, checked_bind,
      parseAuthorityTransitionCause_text, parseAuthorityStatus_text, parseRootKind_text,
      htombstone, parseJuiceboxV6ProjectRef_projectJson, wellFormed.chain, parseNullable_id,
      parseUint256Decimal_decimal, wellFormed.sequence,
      parseFinalizedBlockAnchor_anchorJson wellFormed.anchored, hcursor, parseAuthorityId_text,
      parseNullable_address, parseHash32_text]
  · rfl
  · have hprincipal := isUndefined_nullableText (fun address : EthereumAddress => address.val)
      generation.rootPrincipal
    have hpredecessor := isUndefined_nullableText (fun id : AuthorityId => id.val)
      generation.predecessorGenerationId
    simp only [List.forall_mem_cons, hprincipal, hpredecessor]
    exact ⟨rfl, rfl, rfl, rfl, rfl, rfl, rfl, trivial, rfl, rfl, rfl, rfl, trivial, nofun⟩

/-- The generations that a scan may list after the prior one. -/
def Listed (policy : FinalityPolicy) (now : CanonicalInstant)
    (sources : List AuthorityTransitionSource) (rangeStart rangeEnd : Nat) :
    Option AuthorityGeneration → List AuthorityGeneration → Prop
  | _, [] => True
  | prior, generation :: generations =>
    (WellFormed policy now generation ∧
      rangeStart ≤ generation.activatedAtBlock.blockNumber.val ∧
      generation.activatedAtBlock.blockNumber.val ≤ rangeEnd ∧
      assertFollows prior generation = .ok () ∧
      assertPinnedSource sources prior generation = .ok ()) ∧
    Listed policy now sources rangeStart rangeEnd (some generation) generations

theorem parseGenerations_map {sources : List AuthorityTransitionSource} {rangeStart rangeEnd : Nat}
    {prior : Option AuthorityGeneration} {generations : List AuthorityGeneration}
    (listed : Listed policy now sources rangeStart rangeEnd prior generations) :
    parseGenerations policy now sources rangeStart rangeEnd prior
      (generations.map generationJson) = .ok generations := by
  induction generations generalizing prior with
  | nil => rfl
  | cons generation generations ih =>
    obtain ⟨⟨wellFormed, hstart, hend, hfollows, hpinned⟩, later⟩ := listed
    rw [List.map_cons, parseGenerations, parseAuthorityGeneration_generationJson wellFormed,
      checked_bind, if_neg (by omega), hfollows, checked_bind, hpinned, checked_bind, ih later]
    rfl

end

section

variable (H : HashFunction) {policy : FinalityPolicy} {expected : ScanExpectation}

def checkpointRecord (checkpoint : AuthorityTransitionScanCheckpoint) : Members :=
  checkpointMembers checkpoint.toCheckpointBody ++
    [("checkpointDigest", .text checkpoint.checkpointDigest.val)]

def scanJson (scan : FinalizedAuthorityTransitionScan) : JsonValue :=
  .record [("kind", .text "finalized-authority-transition-scan.v1"),
    ("checkpoint", .record (checkpointRecord scan.checkpoint)),
    ("generations", .array (scan.generations.map generationJson))]

/-- What the parser and a scan that it accepts agree on. -/
structure Agreed (policy : FinalityPolicy) (expected : ScanExpectation)
    (scan : FinalizedAuthorityTransitionScan) (last : AuthorityGeneration) : Prop where
  few : scan.generations.length ≤ 10000
  project : scan.checkpoint.project = expected.project
  chain : scan.checkpoint.project.chainId = policy.chainId
  manifest : scan.checkpoint.deploymentManifestId = scan.checkpoint.project.deploymentManifestId
  adapter : scan.checkpoint.adapterRevision = expected.adapterRevision
  sources : computeAuthorityTransitionSourceSetDigest H expected.sources =
    .ok scan.checkpoint.sourceSetDigest
  previous : namesPrevious expected scan.checkpoint.project scan.checkpoint.sourceSetDigest
    scan.checkpoint.previousCheckpointId scan.checkpoint.previousCheckpointDigest = true
  start : scan.checkpoint.rangeStartBlockNumber.val = expectedRangeStart expected
  anchored : Anchored policy expected.now scan.checkpoint.verifiedThroughBlock
  forward : scan.checkpoint.rangeStartBlockNumber.val ≤
    scan.checkpoint.verifiedThroughBlock.blockNumber.val
  attached : assertAttached H expected = .ok ()
  listed : Listed policy expected.now expected.sources scan.checkpoint.rangeStartBlockNumber.val
    scan.checkpoint.verifiedThroughBlock.blockNumber.val expected.previousGeneration
    scan.generations
  final : lastGeneration expected.previousGeneration scan.generations = some last
  count : scan.checkpoint.rangeTransitionCount = scan.generations.length
  cumulative : scan.checkpoint.cumulativeTransitionCount.val =
    ((expected.previousCheckpoint.map fun checkpoint =>
      checkpoint.cumulativeTransitionCount.val).getD 0) + scan.generations.length
  lastId : scan.checkpoint.lastGenerationId = last.generationId
  lastSequence : scan.checkpoint.lastGenerationSequence = last.sequence
  transitions : sha256AuthorityDigest H (.record
    [("kind", .text "finalized-authority-transitions.v1"),
      ("generations", .array (scan.generations.map generationJson))]) =
    .ok scan.checkpoint.transitionsDigest
  fresh : expected.previousCheckpoint.map (fun checkpoint => checkpoint.checkpointId) ≠
    some scan.checkpoint.checkpointId
  closed : sha256AuthorityDigest H (.record
    [("kind", .text "authority-transition-scan-checkpoint-digest.v1"),
      ("checkpoint", checkpointJson scan.checkpoint.toCheckpointBody)]) =
    .ok scan.checkpoint.checkpointDigest

structure Acceptable (policy : FinalityPolicy) (expected : ScanExpectation)
    (scan : FinalizedAuthorityTransitionScan) (last : AuthorityGeneration) : Prop
    extends Agreed H policy expected scan last where
  through : scan.checkpoint.verifiedThroughBlock = expected.verifiedThroughBlock
  lastCursor : scan.checkpoint.lastTransitionCursor = last.transitionCursor
  lastPlace : last.transitionCursor.deploymentManifestId = scan.checkpoint.deploymentManifestId ∧
    last.transitionCursor.blockNumber = last.activatedAtBlock.blockNumber ∧
    last.transitionCursor.blockHash = last.activatedAtBlock.blockHash

/-- What the parser finds in an accepted scan: two of its comparisons are by digest only. -/
structure Accepted (policy : FinalityPolicy) (expected : ScanExpectation)
    (scan : FinalizedAuthorityTransitionScan) (last : AuthorityGeneration) : Prop
    extends Agreed H policy expected scan last where
  through : sha256AuthorityDigest H (anchorJson scan.checkpoint.verifiedThroughBlock) =
    sha256AuthorityDigest H (anchorJson expected.verifiedThroughBlock)
  lastCursor : sha256AuthorityDigest H (cursorJson scan.checkpoint.lastTransitionCursor) =
    sha256AuthorityDigest H (cursorJson last.transitionCursor)
  lastManifest : scan.checkpoint.lastTransitionCursor.deploymentManifestId =
    scan.checkpoint.deploymentManifestId
  lastPlace : scan.checkpoint.lastTransitionCursor.blockNumber =
      last.activatedAtBlock.blockNumber ∧
    scan.checkpoint.lastTransitionCursor.blockHash = last.activatedAtBlock.blockHash

variable {H} {scan : FinalizedAuthorityTransitionScan} {last : AuthorityGeneration}

theorem Acceptable.accepted (acceptable : Acceptable H policy expected scan last) :
    Accepted H policy expected scan last where
  toAgreed := acceptable.toAgreed
  through := by rw [acceptable.through]
  lastCursor := by rw [acceptable.lastCursor]
  lastManifest := by rw [acceptable.lastCursor, acceptable.lastPlace.1]
  lastPlace := by
    rw [acceptable.lastCursor]
    exact acceptable.lastPlace.2

/-- The part of a checkpoint in front of its generations. -/
def headOf (checkpoint : AuthorityTransitionScanCheckpoint) : CheckpointHead :=
  ⟨checkpoint.project, checkpoint.deploymentManifestId, checkpoint.adapterRevision,
    checkpoint.sourceSetDigest, checkpoint.previousCheckpointId,
    checkpoint.previousCheckpointDigest, checkpoint.rangeStartBlockNumber,
    checkpoint.verifiedThroughBlock⟩

theorem property_checkpointRecord (checkpoint : AuthorityTransitionScanCheckpoint) (key : String) :
    property (checkpointRecord checkpoint) key =
      property (checkpointMembers checkpoint.toCheckpointBody ++
        [("checkpointDigest", .text checkpoint.checkpointDigest.val)]) key := rfl

theorem parsePins_record (accepted : Accepted H policy expected scan last) :
    parsePins H policy expected (checkpointRecord scan.checkpoint) =
      .ok (scan.checkpoint.project, scan.checkpoint.deploymentManifestId,
        scan.checkpoint.adapterRevision, scan.checkpoint.sourceSetDigest) := by
  have hproject := accepted.project
  have hpinned : ¬ (¬ sameJuiceboxV6ProjectRef scan.checkpoint.project expected.project = true ∨
      scan.checkpoint.project.chainId ≠ policy.chainId ∨
      scan.checkpoint.deploymentManifestId ≠ scan.checkpoint.project.deploymentManifestId ∨
      scan.checkpoint.deploymentManifestId ≠ expected.project.deploymentManifestId ∨
      scan.checkpoint.adapterRevision ≠ expected.adapterRevision) := by
    push Not
    exact ⟨sameJuiceboxV6ProjectRef_iff.mpr hproject, accepted.chain, accepted.manifest,
      hproject ▸ accepted.manifest, accepted.adapter⟩
  unfold parsePins
  simp only [property_checkpointRecord, checkpointMembers, List.cons_append, List.nil_append,
    property_cons_self, property_cons_ne, ne_eq, String.reduceEq, not_false_eq_true,
    parseJuiceboxV6ProjectRef_projectJson, parseAuthorityId_text, parseHash32_text, checked_bind]
  rw [if_neg hpinned, accepted.sources, checked_bind, if_neg (not_not.mpr rfl)]

theorem parseCheckpointHead_record (accepted : Accepted H policy expected scan last) :
    parseCheckpointHead H policy expected (checkpointRecord scan.checkpoint) =
      .ok (headOf scan.checkpoint) := by
  obtain ⟨text, -, hdigest⟩ := digest_of_isPlain H
    (isPlain_anchor scan.checkpoint.verifiedThroughBlock)
  have hcontinues : ¬ (¬ namesPrevious expected scan.checkpoint.project
        scan.checkpoint.sourceSetDigest scan.checkpoint.previousCheckpointId
        scan.checkpoint.previousCheckpointDigest = true ∨
      scan.checkpoint.rangeStartBlockNumber.val ≠ expectedRangeStart expected) := by
    push Not
    exact ⟨accepted.previous, accepted.start⟩
  unfold parseCheckpointHead
  rw [parsePins_record accepted, checked_bind]
  simp only [property_checkpointRecord, checkpointMembers, List.cons_append, List.nil_append,
    property_cons_self, property_cons_ne, ne_eq, String.reduceEq, not_false_eq_true,
    parseNullable_id, parseNullable_hash, parseUint256Decimal_decimal, checked_bind]
  have hthrough := accepted.through
  rw [hdigest] at hthrough
  rw [if_neg hcontinues, parseFinalizedBlockAnchor_anchorJson accepted.anchored, checked_bind,
    hdigest, ← hthrough, checked_bind, checked_bind, if_neg]
  · rfl
  · push Not
    exact ⟨rfl, accepted.forward⟩

theorem parseCheckpointBody_record (accepted : Accepted H policy expected scan last) :
    parseCheckpointBody H expected (checkpointRecord scan.checkpoint) (headOf scan.checkpoint)
      scan.generations last = .ok scan.checkpoint.toCheckpointBody := by
  have hcount : parseSafeCount (.integer scan.checkpoint.rangeTransitionCount)
      "range transition count" 10000 = .ok scan.checkpoint.rangeTransitionCount := by
    have hfew := accepted.few
    unfold parseSafeCount
    dsimp only
    rw [accepted.count, Int.toNat_natCast, if_pos ⟨Int.natCast_nonneg _, hfew⟩]
  have hhistory : assertHistory H expected (checkpointRecord scan.checkpoint) scan.generations last
      scan.checkpoint.rangeTransitionCount scan.checkpoint.cumulativeTransitionCount
      scan.checkpoint.transitionsDigest = .ok () := by
    unfold assertHistory
    simp only [property_checkpointRecord, checkpointMembers, decimal, List.cons_append,
      List.nil_append, property_cons_self, property_cons_ne, ne_eq, String.reduceEq,
      not_false_eq_true, isText_text]
    rw [if_neg, accepted.transitions, checked_bind, if_neg (not_not.mpr rfl)]
    push Not
    exact ⟨accepted.count, accepted.cumulative,
      decide_eq_true (congrArg Subtype.val accepted.lastId),
      decide_eq_true (by rw [accepted.lastSequence])⟩
  have hcursor : parseAuthorityTransitionCursor (cursorJson scan.checkpoint.lastTransitionCursor)
      scan.checkpoint.deploymentManifestId last.activatedAtBlock =
        .ok scan.checkpoint.lastTransitionCursor := by
    obtain ⟨hnumber, hhash⟩ := accepted.lastPlace
    rw [← accepted.lastManifest]
    exact parseAuthorityTransitionCursor_cursorJson hnumber hhash
  obtain ⟨text, -, hdigest⟩ := digest_of_isPlain H (isPlain_cursor last.transitionCursor)
  have hnamed := accepted.lastCursor
  rw [hdigest] at hnamed
  unfold parseCheckpointBody
  simp only [property_checkpointRecord, checkpointMembers, List.cons_append, List.nil_append,
    property_cons_self, property_cons_ne, ne_eq, String.reduceEq, not_false_eq_true, hcount,
    parseUint256Decimal_decimal, parseHash32_text, parseAuthorityId_text, checked_bind, hhistory]
  change (parseAuthorityTransitionCursor _ scan.checkpoint.deploymentManifestId _ >>= _) = _
  rw [hcursor, checked_bind, hnamed, checked_bind, hdigest, checked_bind,
    if_neg (not_not.mpr rfl), ← accepted.lastId, ← accepted.lastSequence]
  rfl

theorem sealCheckpoint_record (accepted : Accepted H policy expected scan last) :
    sealCheckpoint H expected (checkpointRecord scan.checkpoint)
      scan.checkpoint.toCheckpointBody = .ok scan.checkpoint := by
  unfold sealCheckpoint
  simp only [property_checkpointRecord, checkpointMembers, List.cons_append, List.nil_append,
    property_cons_self, property_cons_ne, ne_eq, String.reduceEq, not_false_eq_true,
    parseHash32_text, checked_bind]
  rw [if_neg accepted.fresh, accepted.closed, checked_bind, if_neg (not_not.mpr rfl)]

theorem parseScan_of_accepted (accepted : Accepted H policy expected scan last) :
    parseFinalizedAuthorityTransitionScan H (scanJson scan) policy expected = .ok scan := by
  have hitems : scanItems (.array (scan.generations.map generationJson)) =
      .ok (scan.generations.map generationJson) := by
    unfold scanItems
    dsimp only
    rw [List.length_map, if_neg (Nat.not_lt.mpr accepted.few)]
  have hkind : property (checkpointRecord scan.checkpoint) "kind" =
      .text "authority-transition-scan-checkpoint.v1" := property_cons_self _ _ _
  unfold parseFinalizedAuthorityTransitionScan scanJson
  rw [expectExactRecord_of_keys]
  · simp only [checked_bind, property_cons_self, property_cons_ne, ne_eq, String.reduceEq,
      not_false_eq_true, isText_text, decide_true, not_true_eq_false, ↓reduceIte, hitems]
    rw [expectExactRecord_of_keys]
    · rw [checked_bind, hkind]
      simp only [isText_text, decide_true, not_true_eq_false, ↓reduceIte,
        parseCheckpointHead_record accepted, checked_bind, accepted.attached]
      change (parseGenerations policy expected.now expected.sources
        scan.checkpoint.rangeStartBlockNumber.val
        scan.checkpoint.verifiedThroughBlock.blockNumber.val _ _ >>= _) = _
      rw [parseGenerations_map accepted.listed, checked_bind, accepted.final]
      dsimp only
      rw [parseCheckpointBody_record accepted, checked_bind, sealCheckpoint_record accepted]
      rfl
    · rfl
    · have hid := isUndefined_nullableText (fun id : AuthorityId => id.val)
        scan.checkpoint.previousCheckpointId
      have hdigest := isUndefined_nullableText (fun digest : Hash32 => digest.val)
        scan.checkpoint.previousCheckpointDigest
      simp only [checkpointRecord, checkpointMembers, List.cons_append, List.nil_append,
        List.forall_mem_cons, hid, hdigest]
      exact ⟨rfl, rfl, rfl, rfl, rfl, rfl, trivial, trivial, rfl, rfl, rfl, rfl, rfl, rfl, rfl,
        rfl, rfl, nofun⟩
  · rfl
  · simp only [List.forall_mem_cons]
    exact ⟨rfl, rfl, rfl, nofun⟩

theorem parseScan_scanJson (acceptable : Acceptable H policy expected scan last) :
    parseFinalizedAuthorityTransitionScan H (scanJson scan) policy expected = .ok scan :=
  parseScan_of_accepted acceptable.accepted

end

end JbChat.Authority.ScanRendering
