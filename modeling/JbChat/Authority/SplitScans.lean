/- source: src/production/authority/delegations.ts
   digest: One scan of a range against two scans that meet inside it. -/

import JbChat.Authority.GenerationReuse
import JbChat.Authority.ScanAcceptance

set_option autoImplicit false

namespace JbChat.Authority.SplitScans

open Foundation.HashTrace Foundation.Transaction
open Foundation.Lineage ValueObjects Digests Finality Transitions TransitionHistory ScanRendering
open ScanAcceptance GenerationReuse

section

variable (H : HashFunction)

def digestOf (value : JsonValue) : Hash32 :=
  match sha256AuthorityDigest H value with
  | .ok digest => digest
  | .error _ => hashText H []

theorem digest_eq_digestOf {value : JsonValue} (plain : isPlain value = true) :
    sha256AuthorityDigest H value = .ok (digestOf H value) := by
  obtain ⟨text, -, hdigest⟩ := digest_of_isPlain H plain
  unfold digestOf
  rw [hdigest]

/-- A number as a counter, cut off at the largest one. -/
def toCounter (number : Nat) : Uint256Decimal := ⟨min number uint256Max, Nat.min_le_right _ _⟩

theorem toCounter_val {number : Nat} (h : number ≤ uint256Max) : (toCounter number).val = number :=
  Nat.min_eq_left h

/-- What the scanner of a range chooses. -/
structure ScanParts where
  checkpointId : AuthorityId
  verifiedThroughBlock : FinalizedBlockAnchor
  lastTransitionCursor : AuthorityTransitionCursor
  generations : List AuthorityGeneration

def partsOf (scan : FinalizedAuthorityTransitionScan) : ScanParts :=
  ⟨scan.checkpoint.checkpointId, scan.checkpoint.verifiedThroughBlock,
    scan.checkpoint.lastTransitionCursor, scan.generations⟩

def priorCount (expected : ScanExpectation) : Nat :=
  (expected.previousCheckpoint.map fun checkpoint =>
    checkpoint.cumulativeTransitionCount.val).getD 0

def sourceSetJson (sources : List AuthorityTransitionSource) : JsonValue :=
  .record [("kind", .text "authority-transition-source-set.v1"),
    ("sources", .array (sources.map sourceJson))]

def transitionsJson (generations : List AuthorityGeneration) : JsonValue :=
  .record [("kind", .text "finalized-authority-transitions.v1"),
    ("generations", .array (generations.map generationJson))]

def sealedJson (body : CheckpointBody) : JsonValue :=
  .record [("kind", .text "authority-transition-scan-checkpoint-digest.v1"),
    ("checkpoint", checkpointJson body)]

def recomputedBody (expected : ScanExpectation) (parts : ScanParts) (last : AuthorityGeneration) :
    CheckpointBody where
  checkpointId := parts.checkpointId
  project := expected.project
  deploymentManifestId := expected.project.deploymentManifestId
  adapterRevision := expected.adapterRevision
  sourceSetDigest := digestOf H (sourceSetJson expected.sources)
  previousCheckpointId := expected.previousCheckpoint.map fun checkpoint => checkpoint.checkpointId
  previousCheckpointDigest :=
    expected.previousCheckpoint.map fun checkpoint => checkpoint.checkpointDigest
  rangeStartBlockNumber := toCounter (expectedRangeStart expected)
  verifiedThroughBlock := parts.verifiedThroughBlock
  rangeTransitionCount := parts.generations.length
  cumulativeTransitionCount := toCounter (priorCount expected + parts.generations.length)
  lastGenerationId := last.generationId
  lastGenerationSequence := last.sequence
  lastTransitionCursor := parts.lastTransitionCursor
  transitionsDigest := digestOf H (transitionsJson parts.generations)

/-- The scan with the parts, whose checkpoint is computed from them. -/
def recomputed (expected : ScanExpectation) (parts : ScanParts) (last : AuthorityGeneration) :
    FinalizedAuthorityTransitionScan :=
  ⟨⟨recomputedBody H expected parts last, digestOf H (sealedJson (recomputedBody H expected parts
    last))⟩, parts.generations⟩

/-- The scan is accepted as its scanner reports it. -/
def Accepts (policy : FinalityPolicy) (expected : ScanExpectation)
    (scan : FinalizedAuthorityTransitionScan) : Prop :=
  parseFinalizedAuthorityTransitionScan H (scanJson scan) policy expected = .ok scan

/-- What the parts of a scan have to be, for a recomputed checkpoint. -/
structure Sound (policy : FinalityPolicy) (expected : ScanExpectation) (parts : ScanParts)
    (last : AuthorityGeneration) : Prop where
  few : parts.generations.length ≤ 10000
  chain : expected.project.chainId = policy.chainId
  previous : ∀ checkpoint ∈ expected.previousCheckpoint,
    checkpoint.sourceSetDigest = digestOf H (sourceSetJson expected.sources) ∧
      checkpoint.project = expected.project
  anchored : Anchored policy expected.now parts.verifiedThroughBlock
  through : sha256AuthorityDigest H (anchorJson parts.verifiedThroughBlock) =
    sha256AuthorityDigest H (anchorJson expected.verifiedThroughBlock)
  forward : expectedRangeStart expected ≤ parts.verifiedThroughBlock.blockNumber.val
  attached : assertAttached H expected = .ok ()
  listed : Listed policy expected.now expected.sources (expectedRangeStart expected)
    parts.verifiedThroughBlock.blockNumber.val expected.previousGeneration parts.generations
  final : lastGeneration expected.previousGeneration parts.generations = some last
  counted : priorCount expected + parts.generations.length ≤ uint256Max
  lastCursor : sha256AuthorityDigest H (cursorJson parts.lastTransitionCursor) =
    sha256AuthorityDigest H (cursorJson last.transitionCursor)
  lastManifest : parts.lastTransitionCursor.deploymentManifestId =
    expected.project.deploymentManifestId
  lastPlace : parts.lastTransitionCursor.blockNumber = last.activatedAtBlock.blockNumber ∧
    parts.lastTransitionCursor.blockHash = last.activatedAtBlock.blockHash
  fresh : expected.previousCheckpoint.map (fun checkpoint => checkpoint.checkpointId) ≠
    some parts.checkpointId

end

section

variable {H : HashFunction} {policy : FinalityPolicy} {expected : ScanExpectation}
  {parts : ScanParts} {last other : AuthorityGeneration} {scan : FinalizedAuthorityTransitionScan}

theorem isPlain_sourceSet (sources : List AuthorityTransitionSource) :
    isPlain (sourceSetJson sources) = true := by
  unfold sourceSetJson
  simp only [isPlain_record, membersPlain_cons, isPlain_text, isPlain_array,
    entriesPlain_map isPlain_source, membersPlain_nil, Bool.and_self]

theorem isPlain_transitions (generations : List AuthorityGeneration) :
    isPlain (transitionsJson generations) = true := by
  unfold transitionsJson
  simp only [isPlain_record, membersPlain_cons, isPlain_text, isPlain_array,
    entriesPlain_map isPlain_generation, membersPlain_nil, Bool.and_self]

theorem isPlain_sealed {body : CheckpointBody} (few : body.rangeTransitionCount ≤ 10000) :
    isPlain (sealedJson body) = true := by
  unfold sealedJson
  simp only [isPlain_record, membersPlain_cons, isPlain_text, isPlain_checkpoint few,
    membersPlain_nil, Bool.and_self]

theorem namesPrevious_iff {project : JuiceboxV6ProjectRef} {sources : Hash32}
    {id : Option AuthorityId} {digest : Option Hash32} :
    namesPrevious expected project sources id digest = true ↔
      id = expected.previousCheckpoint.map (fun checkpoint => checkpoint.checkpointId) ∧
      digest = expected.previousCheckpoint.map (fun checkpoint => checkpoint.checkpointDigest) ∧
      ∀ checkpoint ∈ expected.previousCheckpoint, checkpoint.sourceSetDigest = sources ∧
        checkpoint.project = project := by
  unfold namesPrevious
  cases expected.previousCheckpoint with
  | none =>
    rw [decide_eq_true_eq]
    exact ⟨fun h => ⟨h.1, h.2, nofun⟩, fun h => ⟨h.1, h.2.1⟩⟩
  | some checkpoint =>
    rw [Bool.and_eq_true, decide_eq_true_eq, sameJuiceboxV6ProjectRef_iff]
    constructor
    · rintro ⟨⟨hid, hdigest, hsources⟩, hproject⟩
      refine ⟨hid, hdigest, fun other hother => ?_⟩
      cases hother
      exact ⟨hsources, hproject⟩
    · rintro ⟨hid, hdigest, hprevious⟩
      obtain ⟨hsources, hproject⟩ := hprevious checkpoint rfl
      exact ⟨⟨hid, hdigest, hsources⟩, hproject⟩

theorem accepted_of_sound (sound : Sound H policy expected parts last) :
    Accepted H policy expected (recomputed H expected parts last) last := by
  have start : (toCounter (expectedRangeStart expected)).val = expectedRangeStart expected :=
    toCounter_val (sound.forward.trans parts.verifiedThroughBlock.blockNumber.property)
  exact
    { few := sound.few
      project := rfl
      chain := sound.chain
      manifest := rfl
      adapter := rfl
      sources := digest_eq_digestOf H (isPlain_sourceSet expected.sources)
      previous := namesPrevious_iff.mpr ⟨rfl, rfl, sound.previous⟩
      start := start
      anchored := sound.anchored
      through := sound.through
      forward := start.trans_le sound.forward
      attached := sound.attached
      listed := by
        change Listed policy _ _ (toCounter (expectedRangeStart expected)).val _ _ _
        rw [start]
        exact sound.listed
      final := sound.final
      count := rfl
      cumulative := toCounter_val sound.counted
      lastId := rfl
      lastSequence := rfl
      lastCursor := sound.lastCursor
      lastManifest := sound.lastManifest
      lastPlace := sound.lastPlace
      transitions := digest_eq_digestOf H (isPlain_transitions parts.generations)
      fresh := sound.fresh
      closed := digest_eq_digestOf H (isPlain_sealed sound.few) }

theorem sources_of_accepted (accepted : Accepted H policy expected scan last) :
    scan.checkpoint.sourceSetDigest = digestOf H (sourceSetJson expected.sources) :=
  Except.ok.inj (accepted.sources.symm.trans
    (digest_eq_digestOf H (isPlain_sourceSet expected.sources)))

theorem sound_of_accepted (accepted : Accepted H policy expected scan last) :
    Sound H policy expected (partsOf scan) last := by
  obtain ⟨-, -, previous⟩ := namesPrevious_iff.mp accepted.previous
  rw [sources_of_accepted accepted, accepted.project] at previous
  have manifest := accepted.lastManifest
  rw [accepted.manifest, accepted.project] at manifest
  have chain := accepted.chain
  rw [accepted.project] at chain
  have start := accepted.start
  have forward := accepted.forward
  have listed := accepted.listed
  rw [start] at forward listed
  have counted := scan.checkpoint.cumulativeTransitionCount.property
  rw [accepted.cumulative] at counted
  exact
    { few := accepted.few
      chain := chain
      previous := previous
      anchored := accepted.anchored
      through := accepted.through
      forward := forward
      attached := accepted.attached
      listed := listed
      final := accepted.final
      counted := counted
      lastCursor := accepted.lastCursor
      lastManifest := manifest
      lastPlace := accepted.lastPlace
      fresh := accepted.fresh }

theorem recomputed_of_accepted (accepted : Accepted H policy expected scan last) :
    recomputed H expected (partsOf scan) last = scan := by
  have sound := sound_of_accepted accepted
  obtain ⟨previousId, previousDigest, -⟩ := namesPrevious_iff.mp accepted.previous
  have start : toCounter (expectedRangeStart expected) = scan.checkpoint.rangeStartBlockNumber :=
    Subtype.ext ((toCounter_val (sound.forward.trans
      scan.checkpoint.verifiedThroughBlock.blockNumber.property)).trans accepted.start.symm)
  have count : toCounter (priorCount expected + scan.generations.length) =
      scan.checkpoint.cumulativeTransitionCount :=
    Subtype.ext ((toCounter_val sound.counted).trans accepted.cumulative.symm)
  have transitions : digestOf H (transitionsJson scan.generations) =
      scan.checkpoint.transitionsDigest :=
    Except.ok.inj ((digest_eq_digestOf H (isPlain_transitions scan.generations)).symm.trans
      accepted.transitions)
  have manifest := accepted.manifest
  rw [accepted.project] at manifest
  have body : recomputedBody H expected (partsOf scan) last = scan.checkpoint.toCheckpointBody := by
    unfold recomputedBody partsOf
    dsimp only
    rw [start, count, transitions, ← previousId, ← previousDigest, ← manifest, ← accepted.project,
      ← accepted.adapter, ← sources_of_accepted accepted, ← accepted.count, ← accepted.lastId,
      ← accepted.lastSequence]
  have few : scan.checkpoint.rangeTransitionCount ≤ 10000 := accepted.count.trans_le accepted.few
  have closed : digestOf H (sealedJson scan.checkpoint.toCheckpointBody) =
      scan.checkpoint.checkpointDigest :=
    Except.ok.inj ((digest_eq_digestOf H (isPlain_sealed few)).symm.trans accepted.closed)
  unfold recomputed
  rw [body, closed]
  rfl

theorem accepts_recomputed_iff
    (final : lastGeneration expected.previousGeneration parts.generations = some last) :
    Accepts H policy expected (recomputed H expected parts last) ↔
      Sound H policy expected parts last := by
  constructor
  · intro accepts
    obtain ⟨found, accepted⟩ := accepted_of_parse accepts
    have sound := sound_of_accepted accepted
    obtain rfl : found = last := Option.some.inj (sound.final.symm.trans final)
    exact sound
  · intro sound
    exact parseScan_of_accepted (accepted_of_sound sound)

end

section

variable {policy : FinalityPolicy} {now : CanonicalInstant}
  {sources : List AuthorityTransitionSource} {start finish start' finish' : Nat}
  {prior : Option AuthorityGeneration} {front back generations : List AuthorityGeneration}

theorem listed_append : Listed policy now sources start finish prior (front ++ back) ↔
    Listed policy now sources start finish prior front ∧
      Listed policy now sources start finish (lastGeneration prior front) back := by
  induction front generalizing prior with
  | nil => exact (iff_of_eq (true_and _)).symm
  | cons generation front ih =>
    have hlast : lastGeneration prior (generation :: front) =
        lastGeneration (some generation) front := lastOf_cons generation
    rw [hlast, List.cons_append]
    exact (and_congr Iff.rfl ih).trans and_assoc.symm

theorem listed_in_range (listed : Listed policy now sources start finish prior generations)
    (inside : ∀ generation ∈ generations, start' ≤ blockOf generation ∧
      blockOf generation ≤ finish') :
    Listed policy now sources start' finish' prior generations := by
  induction generations generalizing prior with
  | nil => exact trivial
  | cons generation generations ih =>
    obtain ⟨⟨wellFormed, -, -, follows, pinned⟩, later⟩ := listed
    obtain ⟨hstart, hfinish⟩ := inside generation List.mem_cons_self
    refine ⟨⟨wellFormed, hstart, hfinish, follows, pinned⟩, ih later fun other hother => ?_⟩
    exact inside other (List.mem_cons_of_mem _ hother)

theorem blocks_sorted (listed : Listed policy now sources start finish prior generations) :
    generations.Pairwise fun generation later => blockOf generation ≤ blockOf later := by
  refine (descends_of_listed listed).pairwise le_trans fun previous next follows => ?_
  have before := (assertFollows_eq_ok follows).2.2.1
  rw [place, place, Prod.Lex.toLex_lt_toLex] at before
  rcases before with before | before
  · exact before.le
  · exact before.1.le

theorem past_of_dropWhile {block : Nat}
    (sorted : generations.Pairwise fun generation later => blockOf generation ≤ blockOf later) :
    ∀ generation ∈ generations.dropWhile fun generation => decide (blockOf generation ≤ block),
      block < blockOf generation := by
  induction generations with
  | nil => exact fun _ h => absurd h List.not_mem_nil
  | cons first generations ih =>
    obtain ⟨after, sorted⟩ := List.pairwise_cons.mp sorted
    rw [List.dropWhile_cons]
    split
    next => exact ih sorted
    next past =>
      have hpast : block < blockOf first := by
        rw [decide_eq_true_eq, not_le] at past
        exact past
      intro generation hgeneration
      rcases List.mem_cons.mp hgeneration with rfl | hlater
      · exact hpast
      · exact hpast.trans_le (after generation hlater)

end

section

variable (H : HashFunction)

/-- What a cut chooses: the anchor of its block and the identifiers of the halves. -/
structure Cut where
  anchor : FinalizedBlockAnchor
  firstId : AuthorityId
  secondId : AuthorityId

def Cut.block (cut : Cut) : Nat := cut.anchor.blockNumber.val

def Cut.before (cut : Cut) (generations : List AuthorityGeneration) : List AuthorityGeneration :=
  generations.takeWhile fun generation => decide (blockOf generation ≤ cut.block)

def Cut.behind (cut : Cut) (generations : List AuthorityGeneration) : List AuthorityGeneration :=
  generations.dropWhile fun generation => decide (blockOf generation ≤ cut.block)

/-- The first half continues what the whole scan continues, and ends with the block of the cut. -/
def firstExpected (expected : ScanExpectation) (cut : Cut) : ScanExpectation :=
  { expected with verifiedThroughBlock := cut.anchor }

def firstHalf (expected : ScanExpectation) (parts : ScanParts) (cut : Cut)
    (known : AuthorityGeneration) : FinalizedAuthorityTransitionScan :=
  recomputed H (firstExpected expected cut)
    ⟨cut.firstId, cut.anchor, known.transitionCursor, cut.before parts.generations⟩ known

def secondExpected (expected : ScanExpectation) (parts : ScanParts) (cut : Cut)
    (known : AuthorityGeneration) : ScanExpectation :=
  { expected with
    previousCheckpoint := some (firstHalf H expected parts cut known).checkpoint
    previousGeneration := some known }

def secondHalf (expected : ScanExpectation) (parts : ScanParts) (cut : Cut)
    (known last : AuthorityGeneration) : FinalizedAuthorityTransitionScan :=
  recomputed H (secondExpected H expected parts cut known)
    { parts with checkpointId := cut.secondId, generations := cut.behind parts.generations } last

end

section

variable {H : HashFunction} {policy : FinalityPolicy} {expected : ScanExpectation}
  {parts : ScanParts} {cut : Cut} {known last : AuthorityGeneration}
  {generations : List AuthorityGeneration} {generation : AuthorityGeneration}

theorem before_append_behind (cut : Cut) (generations : List AuthorityGeneration) :
    cut.before generations ++ cut.behind generations = generations :=
  List.takeWhile_append_dropWhile

theorem length_halves (cut : Cut) (generations : List AuthorityGeneration) :
    (cut.before generations).length + (cut.behind generations).length = generations.length := by
  rw [← List.length_append, before_append_behind]

theorem block_of_mem_before (h : generation ∈ cut.before generations) :
    blockOf generation ≤ cut.block := by
  unfold Cut.before at h
  have hblock := List.mem_takeWhile_imp h
  exact of_decide_eq_true hblock

theorem block_of_mem_behind
    (sorted : generations.Pairwise fun generation later => blockOf generation ≤ blockOf later)
    (h : generation ∈ cut.behind generations) :
    cut.block < blockOf generation :=
  past_of_dropWhile sorted generation h

theorem lastGeneration_halves {prior : Option AuthorityGeneration}
    (hknown : lastGeneration prior (cut.before generations) = some known) :
    lastGeneration (some known) (cut.behind generations) = lastGeneration prior generations := by
  have happend : lastGeneration prior (cut.before generations ++ cut.behind generations) =
      lastGeneration (lastGeneration prior (cut.before generations)) (cut.behind generations) :=
    lastOf_append
  rw [before_append_behind, hknown] at happend
  exact happend.symm

/-- A generation that is known at the cut has its cursor in its own block. -/
def InPlace (generation : AuthorityGeneration) : Prop :=
  generation.transitionCursor.deploymentManifestId = generation.project.deploymentManifestId ∧
    generation.transitionCursor.blockNumber = generation.activatedAtBlock.blockNumber ∧
    generation.transitionCursor.blockHash = generation.activatedAtBlock.blockHash

/-- The second half can continue the first. -/
structure Joins (expected : ScanExpectation) (parts : ScanParts) (cut : Cut)
    (known : AuthorityGeneration) : Prop where
  remains : cut.block < parts.verifiedThroughBlock.blockNumber.val
  project : known.project = expected.project
  inPlace : InPlace known

/-- A cut after a block of the range, with a finalized anchor and identifiers of its own. -/
structure CutOf (policy : FinalityPolicy) (expected : ScanExpectation) (parts : ScanParts)
    (cut : Cut) : Prop where
  few : parts.generations.length ≤ 10000
  inside : expectedRangeStart expected ≤ cut.block ∧
    cut.block ≤ parts.verifiedThroughBlock.blockNumber.val
  anchored : Anchored policy expected.now cut.anchor
  freshWhole : expected.previousCheckpoint.map (fun checkpoint => checkpoint.checkpointId) ≠
    some parts.checkpointId
  freshFirst : expected.previousCheckpoint.map (fun checkpoint => checkpoint.checkpointId) ≠
    some cut.firstId
  freshSecond : cut.firstId ≠ cut.secondId

theorem sound_firstHalf (sound : Sound H policy expected parts last)
    (cutOf : CutOf policy expected parts cut) (joins : Joins expected parts cut known)
    (hknown : lastGeneration expected.previousGeneration (cut.before parts.generations) =
      some known) :
    Sound H policy (firstExpected expected cut)
      ⟨cut.firstId, cut.anchor, known.transitionCursor, cut.before parts.generations⟩ known := by
  have hlength := length_halves cut parts.generations
  have few := sound.few
  have counted := sound.counted
  have listed := sound.listed
  rw [← before_append_behind cut parts.generations] at listed
  obtain ⟨front, -⟩ := listed_append.mp listed
  obtain ⟨manifest, number, hash⟩ := joins.inPlace
  rw [joins.project] at manifest
  exact
    { few := by
        change (cut.before parts.generations).length ≤ 10000
        omega
      chain := sound.chain
      previous := sound.previous
      anchored := cutOf.anchored
      through := rfl
      forward := cutOf.inside.1
      attached := sound.attached
      listed := listed_in_range front fun generation hgeneration =>
        ⟨(mem_of_listed front generation hgeneration).2.1, block_of_mem_before hgeneration⟩
      final := hknown
      counted := by
        change priorCount expected + (cut.before parts.generations).length ≤ uint256Max
        omega
      lastCursor := rfl
      lastManifest := manifest
      lastPlace := ⟨number, hash⟩
      fresh := cutOf.freshFirst }

theorem attached_secondHalf (project : known.project = expected.project) :
    assertAttached H (secondExpected H expected parts cut known) = .ok () := by
  have hdigest := digest_eq_digestOf H (isPlain_cursor known.transitionCursor)
  have hsame : sameJuiceboxV6ProjectRef expected.project known.project = true :=
    sameJuiceboxV6ProjectRef_iff.mpr project.symm
  unfold assertAttached secondExpected firstHalf recomputed recomputedBody
  dsimp only
  rw [if_neg, hdigest, checked_bind, checked_bind, if_neg (not_not.mpr rfl)]
  push Not
  exact ⟨hsame, congrArg _ project.symm, rfl, rfl⟩

theorem project_of_attached
    (attached : assertAttached H (secondExpected H expected parts cut known) = .ok ()) :
    known.project = expected.project := by
  unfold assertAttached secondExpected firstHalf recomputed recomputedBody at attached
  dsimp only at attached
  obtain ⟨hnamed, -⟩ := guard_ok.mp attached
  push Not at hnamed
  exact (sameJuiceboxV6ProjectRef_iff.mp hnamed.1).symm

theorem priorCount_second : priorCount (secondExpected H expected parts cut known) =
    min (priorCount expected + (cut.before parts.generations).length) uint256Max := rfl

theorem sound_secondHalf (sound : Sound H policy expected parts last)
    (cutOf : CutOf policy expected parts cut) (joins : Joins expected parts cut known)
    (hknown : lastGeneration expected.previousGeneration (cut.before parts.generations) =
      some known) :
    Sound H policy (secondExpected H expected parts cut known)
      { parts with checkpointId := cut.secondId, generations := cut.behind parts.generations }
      last := by
  have hlength := length_halves cut parts.generations
  have few := sound.few
  have counted := sound.counted
  have listed := sound.listed
  have sorted := blocks_sorted listed
  rw [← before_append_behind cut parts.generations] at listed
  obtain ⟨-, back⟩ := listed_append.mp listed
  rw [hknown] at back
  exact
    { few := by
        change (cut.behind parts.generations).length ≤ 10000
        omega
      chain := sound.chain
      previous := fun checkpoint hcheckpoint => by
        cases hcheckpoint
        exact ⟨rfl, rfl⟩
      anchored := sound.anchored
      through := sound.through
      forward := joins.remains
      attached := attached_secondHalf joins.project
      listed := listed_in_range back fun generation hgeneration =>
        ⟨block_of_mem_behind sorted hgeneration, (mem_of_listed back generation hgeneration).2.2⟩
      final := (lastGeneration_halves hknown).trans sound.final
      counted := by
        rw [priorCount_second]
        change _ + (cut.behind parts.generations).length ≤ uint256Max
        omega
      lastCursor := sound.lastCursor
      lastManifest := sound.lastManifest
      lastPlace := sound.lastPlace
      fresh := fun same => cutOf.freshSecond (Option.some.inj same) }

theorem sound_of_halves (cutOf : CutOf policy expected parts cut)
    (hknown : lastGeneration expected.previousGeneration (cut.before parts.generations) =
      some known)
    (first : Sound H policy (firstExpected expected cut)
      ⟨cut.firstId, cut.anchor, known.transitionCursor, cut.before parts.generations⟩ known)
    (second : Sound H policy (secondExpected H expected parts cut known)
      { parts with checkpointId := cut.secondId, generations := cut.behind parts.generations }
      last) :
    Sound H policy expected parts last ∧ Joins expected parts cut known := by
  have hlength := length_halves cut parts.generations
  have project := project_of_attached second.attached
  have starts : expectedRangeStart expected ≤ cut.block := first.forward
  have remains : cut.block + 1 ≤ parts.verifiedThroughBlock.blockNumber.val := second.forward
  have hfirst : priorCount expected + (cut.before parts.generations).length ≤ uint256Max :=
    first.counted
  have hsecond : min (priorCount expected + (cut.before parts.generations).length) uint256Max +
      (cut.behind parts.generations).length ≤ uint256Max := second.counted
  have front : Listed policy expected.now expected.sources (expectedRangeStart expected)
      cut.block expected.previousGeneration (cut.before parts.generations) := first.listed
  have back : Listed policy expected.now expected.sources (cut.block + 1)
      parts.verifiedThroughBlock.blockNumber.val (some known)
      (cut.behind parts.generations) := second.listed
  have listed : Listed policy expected.now expected.sources (expectedRangeStart expected)
      parts.verifiedThroughBlock.blockNumber.val expected.previousGeneration
      (cut.before parts.generations ++ cut.behind parts.generations) := by
    rw [listed_append, hknown]
    constructor
    · refine listed_in_range front fun generation hgeneration => ?_
      obtain ⟨-, hstart, hfinish⟩ := mem_of_listed front generation hgeneration
      exact ⟨hstart, hfinish.trans (by omega)⟩
    · refine listed_in_range back fun generation hgeneration => ?_
      obtain ⟨-, hstart, hfinish⟩ := mem_of_listed back generation hgeneration
      exact ⟨le_trans (by omega) hstart, hfinish⟩
  rw [before_append_behind] at listed
  have manifest : known.transitionCursor.deploymentManifestId =
      expected.project.deploymentManifestId := first.lastManifest
  rw [← project] at manifest
  refine ⟨?_, remains, project, manifest, first.lastPlace⟩
  exact
    { few := cutOf.few
      chain := first.chain
      previous := first.previous
      anchored := second.anchored
      through := second.through
      forward := by omega
      attached := first.attached
      listed := listed
      final := (lastGeneration_halves hknown).symm.trans second.final
      counted := by omega
      lastCursor := second.lastCursor
      lastManifest := second.lastManifest
      lastPlace := second.lastPlace
      fresh := cutOf.freshWhole }

/-- Two checkpoints leave the same generation, cursor and count behind. -/
structure SameEnd (left right : FinalizedAuthorityTransitionScan) : Prop where
  lastId : left.checkpoint.lastGenerationId = right.checkpoint.lastGenerationId
  lastSequence : left.checkpoint.lastGenerationSequence = right.checkpoint.lastGenerationSequence
  lastCursor : left.checkpoint.lastTransitionCursor = right.checkpoint.lastTransitionCursor
  cumulative : left.checkpoint.cumulativeTransitionCount =
    right.checkpoint.cumulativeTransitionCount

theorem sameEnd_halves : SameEnd (secondHalf H expected parts cut known last)
    (recomputed H expected parts last) := by
  have hlength := length_halves cut parts.generations
  refine ⟨rfl, rfl, rfl, Subtype.ext ?_⟩
  change min (priorCount (secondExpected H expected parts cut known) +
    (cut.behind parts.generations).length) uint256Max =
      min (priorCount expected + parts.generations.length) uint256Max
  rw [priorCount_second]
  omega

theorem accepts_halves_iff (cutOf : CutOf policy expected parts cut)
    (hknown : lastGeneration expected.previousGeneration (cut.before parts.generations) =
      some known)
    (hlast : lastGeneration expected.previousGeneration parts.generations = some last) :
    Accepts H policy (firstExpected expected cut) (firstHalf H expected parts cut known) ∧
        Accepts H policy (secondExpected H expected parts cut known)
          (secondHalf H expected parts cut known last) ↔
      Accepts H policy expected (recomputed H expected parts last) ∧
        Joins expected parts cut known := by
  have hsecond : lastGeneration (secondExpected H expected parts cut known).previousGeneration
      (cut.behind parts.generations) = some last := (lastGeneration_halves hknown).trans hlast
  unfold firstHalf secondHalf
  rw [accepts_recomputed_iff hknown, accepts_recomputed_iff hsecond, accepts_recomputed_iff hlast]
  constructor
  · rintro ⟨first, second⟩
    exact sound_of_halves cutOf hknown first second
  · rintro ⟨sound, joins⟩
    exact ⟨sound_firstHalf sound cutOf joins hknown, sound_secondHalf sound cutOf joins hknown⟩

/-- A scan is accepted in two halves exactly when it is accepted whole and the halves join; the
second half then ends as the whole does. -/
theorem split_scan_iff (cutOf : CutOf policy expected parts cut)
    (hknown : lastGeneration expected.previousGeneration (cut.before parts.generations) =
      some known)
    (hlast : lastGeneration expected.previousGeneration parts.generations = some last) :
    (∀ scan, Accepts H policy expected scan → partsOf scan = parts →
      scan = recomputed H expected parts last) ∧
    (Accepts H policy (firstExpected expected cut) (firstHalf H expected parts cut known) ∧
        Accepts H policy (secondExpected H expected parts cut known)
          (secondHalf H expected parts cut known last) ↔
      Accepts H policy expected (recomputed H expected parts last) ∧
        Joins expected parts cut known) ∧
    lastGeneration (some known) (cut.behind parts.generations) = some last ∧
    SameEnd (secondHalf H expected parts cut known last) (recomputed H expected parts last) := by
  refine ⟨fun scan accepts same => ?_, accepts_halves_iff cutOf hknown hlast,
    (lastGeneration_halves hknown).trans hlast, sameEnd_halves⟩
  obtain ⟨found, accepted⟩ := accepted_of_parse accepts
  have final := accepted.final
  obtain rfl := same
  obtain rfl : found = last := Option.some.inj (final.symm.trans hlast)
  exact (recomputed_of_accepted accepted).symm

end

def sampleParts : ScanParts :=
  ⟨⟨"checkpoint", isAuthorityId_checkpoint⟩, sampleAnchor three, sampleCursor three transferId,
    sampleGenerations⟩

def sampleCut (block : Uint256Decimal) : Cut :=
  ⟨sampleAnchor block, ⟨"first-half", by decide⟩, ⟨"second-half", by decide⟩⟩

theorem sampleParts_sound :
    Sound zeroDigests samplePolicy sampleRequest.expected sampleParts thirdGeneration where
  few := by decide
  chain := rfl
  previous := nofun
  anchored := sampleAnchored three
  through := rfl
  forward := by decide
  attached := rfl
  listed := sampleListed
  final := rfl
  counted := by decide
  lastCursor := rfl
  lastManifest := rfl
  lastPlace := ⟨rfl, rfl⟩
  fresh := (Option.some_ne_none _).symm

/-- The scan of three transfers is accepted in two halves that meet behind the second. -/
theorem sample_split :
    Accepts zeroDigests samplePolicy (firstExpected sampleRequest.expected (sampleCut two))
        (firstHalf zeroDigests sampleRequest.expected sampleParts (sampleCut two)
          secondGeneration) ∧
      Accepts zeroDigests samplePolicy
        (secondExpected zeroDigests sampleRequest.expected sampleParts (sampleCut two)
          secondGeneration)
        (secondHalf zeroDigests sampleRequest.expected sampleParts (sampleCut two)
          secondGeneration thirdGeneration) := by
  have cutOf : CutOf samplePolicy sampleRequest.expected sampleParts (sampleCut two) :=
    ⟨by decide, by decide, sampleAnchored two, (Option.some_ne_none _).symm,
      (Option.some_ne_none _).symm, by decide⟩
  have final : lastGeneration sampleRequest.expected.previousGeneration sampleParts.generations =
      some thirdGeneration := rfl
  have whole := (accepts_recomputed_iff final).mpr sampleParts_sound
  exact (split_scan_iff cutOf rfl rfl).2.1.mpr ⟨whole, by decide, rfl, rfl, rfl, rfl⟩

/-- Another project of the same chain and manifest. -/
def foreignProject : JuiceboxV6ProjectRef := { sampleProject with projectId := ⟨2, by decide⟩ }

def foreignGeneration : AuthorityGeneration := { firstGeneration with project := foreignProject }

def foreignParts : ScanParts :=
  ⟨⟨"checkpoint", isAuthorityId_checkpoint⟩, sampleAnchor three, sampleCursor one bootstrapId,
    [foreignGeneration]⟩

/-- An initial scan whose one generation is of another project is accepted whole, and the halves
that meet behind that generation are not. -/
theorem foreign_generation_splits :
    CutOf samplePolicy sampleRequest.expected foreignParts (sampleCut one) ∧
      lastGeneration none ((sampleCut one).before foreignParts.generations) =
        some foreignGeneration ∧
      Accepts zeroDigests samplePolicy sampleRequest.expected
        (recomputed zeroDigests sampleRequest.expected foreignParts foreignGeneration) ∧
      ¬ (Accepts zeroDigests samplePolicy (firstExpected sampleRequest.expected (sampleCut one))
          (firstHalf zeroDigests sampleRequest.expected foreignParts (sampleCut one)
            foreignGeneration) ∧
        Accepts zeroDigests samplePolicy
          (secondExpected zeroDigests sampleRequest.expected foreignParts (sampleCut one)
            foreignGeneration)
          (secondHalf zeroDigests sampleRequest.expected foreignParts (sampleCut one)
            foreignGeneration foreignGeneration)) := by
  have cutOf : CutOf samplePolicy sampleRequest.expected foreignParts (sampleCut one) :=
    ⟨by decide, by decide, sampleAnchored one, (Option.some_ne_none _).symm,
      (Option.some_ne_none _).symm, by decide⟩
  have pinned : assertPinnedSource sampleSources none firstGeneration = .ok () :=
    ok_of_isOk (by decide +kernel)
  have sound : Sound zeroDigests samplePolicy sampleRequest.expected foreignParts
      foreignGeneration := {
    few := by decide
    chain := rfl
    previous := nofun
    anchored := sampleAnchored three
    through := rfl
    forward := by decide
    attached := rfl
    listed := ⟨⟨⟨by decide, rfl, rfl, sampleAnchored one, rfl, rfl, rfl⟩, by decide, by decide, rfl,
      pinned⟩, trivial⟩
    final := rfl
    counted := by decide
    lastCursor := rfl
    lastManifest := rfl
    lastPlace := ⟨rfl, rfl⟩
    fresh := (Option.some_ne_none _).symm }
  refine ⟨cutOf, rfl, (accepts_recomputed_iff rfl).mpr sound, fun halves => ?_⟩
  obtain ⟨-, joins⟩ := (accepts_halves_iff cutOf rfl rfl).mp halves
  have hid := congrArg JuiceboxV6ProjectRef.projectId joins.project
  exact absurd hid (by decide)

end JbChat.Authority.SplitScans
