/- source: src/production/authority/delegations.ts
   digest: What the parsers of anchors, cursors, generations and scans have checked. -/

import JbChat.Authority.ScanRendering
import JbChat.Foundation.Lineage

set_option autoImplicit false

namespace JbChat.Authority.ScanAcceptance

open Foundation.HashTrace Foundation.Transaction Foundation.Lineage
open ValueObjects Digests Finality Transitions ScanRendering

section

variable {policy : FinalityPolicy} {now : CanonicalInstant} {value : JsonValue}
  {ids : List AuthorityId}

theorem parseIds_length {label : String} {entries : List JsonValue}
    (h : parseIds label entries = .ok ids) : ids.length = entries.length := by
  induction entries generalizing ids with
  | nil =>
    cases h
    rfl
  | cons entry entries ih =>
    unfold parseIds at h
    obtain ⟨id, -, h⟩ := bind_ok.mp h
    obtain ⟨rest, hrest, h⟩ := bind_ok.mp h
    cases h
    rw [List.length_cons, List.length_cons, ih hrest]

theorem parseProviderIds_eq_ok (h : parseProviderIds value = .ok ids) :
    (1 ≤ ids.length ∧ ids.length ≤ 5) ∧ ids.Nodup ∧
      ids.insertionSort (fun a b => a.val ≤ b.val) = ids := by
  unfold parseProviderIds at h
  split at h
  · obtain ⟨hfew, h⟩ := guard_ok.mp h
    obtain ⟨parsed, hparsed, h⟩ := bind_ok.mp h
    obtain ⟨hdistinct, h⟩ := guard_ok.mp h
    obtain ⟨hsorted, h⟩ := guard_ok.mp h
    cases h
    have hlength := parseIds_length hparsed
    exact ⟨by omega, not_not.mp hdistinct, not_not.mp hsorted⟩
  · cases h

theorem anchored_of_parse {anchor : FinalizedBlockAnchor}
    (h : parseFinalizedBlockAnchor value policy now = .ok anchor) :
    Anchored policy now anchor := by
  unfold parseFinalizedBlockAnchor at h
  obtain ⟨record, -, h⟩ := bind_ok.mp h
  obtain ⟨-, h⟩ := guard_ok.mp h
  obtain ⟨chainId, -, h⟩ := bind_ok.mp h
  obtain ⟨hchain, h⟩ := guard_ok.mp h
  obtain ⟨providerIds, hproviders, h⟩ := bind_ok.mp h
  obtain ⟨hquorum, h⟩ := guard_ok.mp h
  obtain ⟨finalizedAt, -, h⟩ := bind_ok.mp h
  obtain ⟨hpast, h⟩ := guard_ok.mp h
  obtain ⟨blockNumber, -, h⟩ := bind_ok.mp h
  obtain ⟨blockHash, -, h⟩ := bind_ok.mp h
  cases h
  obtain ⟨few, distinct, sorted⟩ := parseProviderIds_eq_ok hproviders
  exact ⟨not_not.mp hchain, few, distinct, sorted, not_lt.mp hquorum, not_lt.mp hpast⟩

theorem parseCursor_eq_ok {manifest : AuthorityId} {block : FinalizedBlockAnchor}
    {cursor : AuthorityTransitionCursor}
    (h : parseAuthorityTransitionCursor value manifest block = .ok cursor) :
    cursor.deploymentManifestId = manifest ∧ cursor.blockNumber = block.blockNumber ∧
      cursor.blockHash = block.blockHash := by
  unfold parseAuthorityTransitionCursor at h
  obtain ⟨record, -, h⟩ := bind_ok.mp h
  obtain ⟨-, h⟩ := guard_ok.mp h
  obtain ⟨manifestId, -, h⟩ := bind_ok.mp h
  obtain ⟨adapterRevision, -, h⟩ := bind_ok.mp h
  obtain ⟨sourceId, -, h⟩ := bind_ok.mp h
  obtain ⟨blockNumber, -, h⟩ := bind_ok.mp h
  obtain ⟨blockHash, -, h⟩ := bind_ok.mp h
  obtain ⟨transactionHash, -, h⟩ := bind_ok.mp h
  obtain ⟨transactionIndex, -, h⟩ := bind_ok.mp h
  obtain ⟨logIndex, -, h⟩ := bind_ok.mp h
  obtain ⟨emitter, -, h⟩ := bind_ok.mp h
  obtain ⟨eventTopic0, -, h⟩ := bind_ok.mp h
  obtain ⟨hplace, h⟩ := guard_ok.mp h
  cases h
  push Not at hplace
  exact hplace

end

section

variable {policy : FinalityPolicy} {now : CanonicalInstant} {value : JsonValue}

theorem parseNullable_none_iff {α : Type} {parse : JsonValue → Checked α} {result : Option α}
    (h : parseNullable value parse = .ok result) : value.isNull = true ↔ result = none := by
  unfold parseNullable at h
  split at h
  next hnull =>
    cases h
    exact iff_of_true hnull rfl
  next hvalue =>
    cases hparse : parse value with
    | error e =>
      rw [hparse] at h
      cases h
    | ok parsed =>
      rw [hparse] at h
      cases h
      exact iff_of_false hvalue (Option.some_ne_none parsed)

theorem wellFormed_of_parse {generation : AuthorityGeneration}
    (h : parseAuthorityGeneration value policy now = .ok generation) :
    WellFormed policy now generation := by
  unfold parseAuthorityGeneration at h
  obtain ⟨record, -, h⟩ := bind_ok.mp h
  obtain ⟨-, h⟩ := guard_ok.mp h
  obtain ⟨transitionCause, -, h⟩ := bind_ok.mp h
  obtain ⟨authorityStatus, -, h⟩ := bind_ok.mp h
  obtain ⟨rootKind, -, h⟩ := bind_ok.mp h
  obtain ⟨⟨⟩, htombstone, h⟩ := bind_ok.mp h
  obtain ⟨project, -, h⟩ := bind_ok.mp h
  obtain ⟨hchain, h⟩ := guard_ok.mp h
  obtain ⟨predecessorGenerationId, -, h⟩ := bind_ok.mp h
  obtain ⟨sequence, -, h⟩ := bind_ok.mp h
  obtain ⟨⟨⟩, hsequence, h⟩ := bind_ok.mp h
  obtain ⟨activatedAtBlock, hblock, h⟩ := bind_ok.mp h
  obtain ⟨transitionCursor, hcursor, h⟩ := bind_ok.mp h
  obtain ⟨generationId, -, h⟩ := bind_ok.mp h
  obtain ⟨rootPrincipal, hprincipal, h⟩ := bind_ok.mp h
  obtain ⟨rootEvidenceId, -, h⟩ := bind_ok.mp h
  obtain ⟨rootEvidenceDigest, -, h⟩ := bind_ok.mp h
  cases h
  unfold assertTombstone at htombstone
  obtain ⟨htombstone, -⟩ := guard_ok.mp htombstone
  push Not at htombstone
  obtain ⟨hmanifest, hnumber, hhash⟩ := parseCursor_eq_ok hcursor
  exact ⟨⟨htombstone.1, htombstone.2.trans (parseNullable_none_iff hprincipal)⟩,
    not_not.mp hchain, hsequence, anchored_of_parse hblock, hmanifest, hnumber, hhash⟩

theorem listed_of_parse {sources : List AuthorityTransitionSource} {rangeStart rangeEnd : Nat}
    {prior : Option AuthorityGeneration} {items : List JsonValue}
    {generations : List AuthorityGeneration}
    (h : parseGenerations policy now sources rangeStart rangeEnd prior items = .ok generations) :
    Listed policy now sources rangeStart rangeEnd prior generations ∧
      generations.length = items.length := by
  induction items generalizing prior generations with
  | nil =>
    cases h
    exact ⟨trivial, rfl⟩
  | cons item items ih =>
    unfold parseGenerations at h
    obtain ⟨generation, hgeneration, h⟩ := bind_ok.mp h
    obtain ⟨hrange, h⟩ := guard_ok.mp h
    obtain ⟨⟨⟩, hfollows, h⟩ := bind_ok.mp h
    obtain ⟨⟨⟩, hpinned, h⟩ := bind_ok.mp h
    obtain ⟨rest, hrest, h⟩ := bind_ok.mp h
    cases h
    obtain ⟨listed, hlength⟩ := ih hrest
    push Not at hrange
    have wellFormed := wellFormed_of_parse hgeneration
    refine ⟨⟨⟨wellFormed, hrange.1, hrange.2, hfollows, hpinned⟩, listed⟩, ?_⟩
    rw [List.length_cons, List.length_cons, hlength]

variable {sources : List AuthorityTransitionSource} {rangeStart rangeEnd : Nat}
  {prior : Option AuthorityGeneration} {generations : List AuthorityGeneration}

theorem descends_of_listed
    (listed : Listed policy now sources rangeStart rangeEnd prior generations) :
    Descends (fun previous next => assertFollows previous next = .ok ()) prior generations := by
  induction generations generalizing prior with
  | nil => exact trivial
  | cons generation generations ih => exact ⟨listed.1.2.2.2.1, ih listed.2⟩

theorem mem_of_listed (listed : Listed policy now sources rangeStart rangeEnd prior generations) :
    ∀ generation ∈ generations, WellFormed policy now generation ∧
      rangeStart ≤ generation.activatedAtBlock.blockNumber.val ∧
      generation.activatedAtBlock.blockNumber.val ≤ rangeEnd := by
  induction generations generalizing prior with
  | nil => exact fun _ h => absurd h List.not_mem_nil
  | cons generation generations ih =>
    intro other hother
    rcases List.mem_cons.mp hother with rfl | hlater
    · exact ⟨listed.1.1, listed.1.2.1, listed.1.2.2.1⟩
    · exact ih listed.2 other hlater

end

section

variable {H : HashFunction} {policy : FinalityPolicy} {expected : ScanExpectation}
  {record : Members} {value : JsonValue} {scan : FinalizedAuthorityTransitionScan}
  {head : CheckpointHead} {body : CheckpointBody}

theorem pins_of_parse {pins : JuiceboxV6ProjectRef × AuthorityId × AuthorityId × Hash32}
    (h : parsePins H policy expected record = .ok pins) :
    pins.1 = expected.project ∧ pins.1.chainId = policy.chainId ∧
      pins.2.1 = pins.1.deploymentManifestId ∧ pins.2.2.1 = expected.adapterRevision ∧
      computeAuthorityTransitionSourceSetDigest H expected.sources = .ok pins.2.2.2 := by
  unfold parsePins at h
  obtain ⟨project, -, h⟩ := bind_ok.mp h
  obtain ⟨manifest, -, h⟩ := bind_ok.mp h
  obtain ⟨adapter, -, h⟩ := bind_ok.mp h
  obtain ⟨sources, -, h⟩ := bind_ok.mp h
  obtain ⟨hpinned, h⟩ := guard_ok.mp h
  obtain ⟨digest, hdigest, h⟩ := bind_ok.mp h
  obtain ⟨hsources, h⟩ := guard_ok.mp h
  cases h
  push Not at hpinned
  obtain ⟨hproject, hchain, hmanifest, -, hadapter⟩ := hpinned
  refine ⟨sameJuiceboxV6ProjectRef_iff.mp hproject, hchain, hmanifest, hadapter, ?_⟩
  rw [hdigest, not_not.mp hsources]

/-- What the part of a checkpoint in front of its generations was checked for. -/
structure Headed (H : HashFunction) (policy : FinalityPolicy) (expected : ScanExpectation)
    (head : CheckpointHead) : Prop where
  project : head.project = expected.project
  chain : head.project.chainId = policy.chainId
  manifest : head.deploymentManifestId = head.project.deploymentManifestId
  adapter : head.adapterRevision = expected.adapterRevision
  sources : computeAuthorityTransitionSourceSetDigest H expected.sources = .ok head.sourceSetDigest
  previous : namesPrevious expected head.project head.sourceSetDigest head.previousCheckpointId
    head.previousCheckpointDigest = true
  start : head.rangeStartBlockNumber.val = expectedRangeStart expected
  anchored : Anchored policy expected.now head.verifiedThroughBlock
  through : sha256AuthorityDigest H (anchorJson head.verifiedThroughBlock) =
    sha256AuthorityDigest H (anchorJson expected.verifiedThroughBlock)
  forward : head.rangeStartBlockNumber.val ≤ head.verifiedThroughBlock.blockNumber.val

theorem headed_of_parse (h : parseCheckpointHead H policy expected record = .ok head) :
    Headed H policy expected head := by
  unfold parseCheckpointHead at h
  obtain ⟨⟨project, manifest, adapter, sources⟩, hpins, h⟩ := bind_ok.mp h
  obtain ⟨previousId, -, h⟩ := bind_ok.mp h
  obtain ⟨previousDigest, -, h⟩ := bind_ok.mp h
  obtain ⟨start, -, h⟩ := bind_ok.mp h
  obtain ⟨hnames, h⟩ := guard_ok.mp h
  obtain ⟨through, hthrough, h⟩ := bind_ok.mp h
  obtain ⟨scanned, hscanned, h⟩ := bind_ok.mp h
  obtain ⟨asked, hasked, h⟩ := bind_ok.mp h
  obtain ⟨hend, h⟩ := guard_ok.mp h
  cases h
  obtain ⟨hproject, hchain, hmanifest, hadapter, hsources⟩ := pins_of_parse hpins
  push Not at hnames hend
  exact
    { project := hproject
      chain := hchain
      manifest := hmanifest
      adapter := hadapter
      sources := hsources
      previous := hnames.1
      start := hnames.2
      anchored := anchored_of_parse hthrough
      through := by rw [hscanned, hasked, hend.1]
      forward := hend.2 }

/-- What the rest of a checkpoint was checked for, behind its generations. -/
structure Counted (H : HashFunction) (expected : ScanExpectation) (head : CheckpointHead)
    (generations : List AuthorityGeneration) (last : AuthorityGeneration) (body : CheckpointBody) :
    Prop where
  kept : CheckpointHead.mk body.project body.deploymentManifestId body.adapterRevision
    body.sourceSetDigest body.previousCheckpointId body.previousCheckpointDigest
    body.rangeStartBlockNumber body.verifiedThroughBlock = head
  count : body.rangeTransitionCount = generations.length
  cumulative : body.cumulativeTransitionCount.val = ((expected.previousCheckpoint.map
    fun checkpoint => checkpoint.cumulativeTransitionCount.val).getD 0) + generations.length
  lastId : body.lastGenerationId = last.generationId
  lastSequence : body.lastGenerationSequence = last.sequence
  lastCursor : sha256AuthorityDigest H (cursorJson body.lastTransitionCursor) =
    sha256AuthorityDigest H (cursorJson last.transitionCursor)
  lastManifest : body.lastTransitionCursor.deploymentManifestId = head.deploymentManifestId
  lastPlace : body.lastTransitionCursor.blockNumber = last.activatedAtBlock.blockNumber ∧
    body.lastTransitionCursor.blockHash = last.activatedAtBlock.blockHash
  transitions : sha256AuthorityDigest H (.record
    [("kind", .text "finalized-authority-transitions.v1"),
      ("generations", .array (generations.map generationJson))]) = .ok body.transitionsDigest

theorem counted_of_parse {generations : List AuthorityGeneration} {last : AuthorityGeneration}
    (h : parseCheckpointBody H expected record head generations last = .ok body) :
    Counted H expected head generations last body := by
  unfold parseCheckpointBody at h
  obtain ⟨count, -, h⟩ := bind_ok.mp h
  obtain ⟨cumulative, -, h⟩ := bind_ok.mp h
  obtain ⟨transitions, -, h⟩ := bind_ok.mp h
  obtain ⟨⟨⟩, hhistory, h⟩ := bind_ok.mp h
  obtain ⟨cursor, hcursor, h⟩ := bind_ok.mp h
  obtain ⟨named, hnamed, h⟩ := bind_ok.mp h
  obtain ⟨final, hfinal, h⟩ := bind_ok.mp h
  obtain ⟨hsame, h⟩ := guard_ok.mp h
  obtain ⟨checkpointId, -, h⟩ := bind_ok.mp h
  cases h
  unfold assertHistory at hhistory
  obtain ⟨hcounts, hhistory⟩ := guard_ok.mp hhistory
  obtain ⟨digest, hdigest, hhistory⟩ := bind_ok.mp hhistory
  obtain ⟨htransitions, -⟩ := guard_ok.mp hhistory
  push Not at hcounts
  obtain ⟨hmanifest, hplace⟩ := parseCursor_eq_ok hcursor
  exact
    { kept := rfl
      count := hcounts.1
      cumulative := hcounts.2.1
      lastId := rfl
      lastSequence := rfl
      lastCursor := by rw [hnamed, hfinal, not_not.mp hsame]
      lastManifest := hmanifest
      lastPlace := hplace
      transitions := by rw [hdigest, not_not.mp htransitions] }

theorem sealed_of_parse {checkpoint : AuthorityTransitionScanCheckpoint}
    (h : sealCheckpoint H expected record body = .ok checkpoint) :
    checkpoint.toCheckpointBody = body ∧
      expected.previousCheckpoint.map (fun previous => previous.checkpointId) ≠
        some body.checkpointId ∧
      sha256AuthorityDigest H (.record
        [("kind", .text "authority-transition-scan-checkpoint-digest.v1"),
          ("checkpoint", checkpointJson body)]) = .ok checkpoint.checkpointDigest := by
  unfold sealCheckpoint at h
  obtain ⟨hfresh, h⟩ := guard_ok.mp h
  obtain ⟨checkpointDigest, -, h⟩ := bind_ok.mp h
  obtain ⟨digest, hdigest, h⟩ := bind_ok.mp h
  obtain ⟨hclosed, h⟩ := guard_ok.mp h
  cases h
  exact ⟨rfl, hfresh, by rw [hdigest, not_not.mp hclosed]⟩

theorem accepted_of_parse
    (h : parseFinalizedAuthorityTransitionScan H value policy expected = .ok scan) :
    ∃ last, Accepted H policy expected scan last := by
  unfold parseFinalizedAuthorityTransitionScan at h
  obtain ⟨scanRecord, -, h⟩ := bind_ok.mp h
  obtain ⟨-, h⟩ := guard_ok.mp h
  obtain ⟨items, hitems, h⟩ := bind_ok.mp h
  obtain ⟨record, -, h⟩ := bind_ok.mp h
  obtain ⟨-, h⟩ := guard_ok.mp h
  obtain ⟨head, hhead, h⟩ := bind_ok.mp h
  obtain ⟨⟨⟩, attached, h⟩ := bind_ok.mp h
  obtain ⟨generations, hgenerations, h⟩ := bind_ok.mp h
  have few : items.length ≤ 10000 := by
    unfold scanItems at hitems
    split at hitems
    · obtain ⟨hfew, hitems⟩ := guard_ok.mp hitems
      cases hitems
      exact not_lt.mp hfew
    · cases hitems
  cases final : lastGeneration expected.previousGeneration generations with
  | none =>
    rw [final] at h
    cases h
  | some last =>
    rw [final] at h
    obtain ⟨body, hbody, h⟩ := bind_ok.mp h
    obtain ⟨checkpoint, hcheckpoint, h⟩ := bind_ok.mp h
    cases h
    obtain ⟨listed, hlength⟩ := listed_of_parse hgenerations
    have headed := headed_of_parse hhead
    have counted := counted_of_parse hbody
    obtain ⟨rfl, fresh, closed⟩ := sealed_of_parse hcheckpoint
    obtain rfl := counted.kept
    exact ⟨last,
      { few := hlength.trans_le few
        project := headed.project
        chain := headed.chain
        manifest := headed.manifest
        adapter := headed.adapter
        sources := headed.sources
        previous := headed.previous
        start := headed.start
        anchored := headed.anchored
        through := headed.through
        forward := headed.forward
        attached := attached
        listed := listed
        final := final
        count := counted.count
        cumulative := counted.cumulative
        lastId := counted.lastId
        lastSequence := counted.lastSequence
        lastCursor := counted.lastCursor
        lastManifest := counted.lastManifest
        lastPlace := counted.lastPlace
        transitions := counted.transitions
        fresh := fresh
        closed := closed }⟩

end

end JbChat.Authority.ScanAcceptance
