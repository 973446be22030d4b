/- source: src/production/authority/delegations.ts
   digest: The block hashes that an accepted history names, and the end of a range among them. -/

import JbChat.Authority.GenerationReuse
import JbChat.Authority.ScanAcceptance

set_option autoImplicit false

namespace JbChat.Authority.AnchorHashes

open Foundation.HashTrace Foundation.Transaction
open ValueObjects Digests Finality Transitions TransitionHistory ScanRendering ScanAcceptance
open GenerationReuse

/-- The block of a number, as something names it. -/
structure BlockAnchor where
  blockNumber : Uint256Decimal
  blockHash : Hash32
deriving DecidableEq

def generationAnchors (generation : AuthorityGeneration) : List BlockAnchor :=
  [⟨generation.activatedAtBlock.blockNumber, generation.activatedAtBlock.blockHash⟩,
    ⟨generation.transitionCursor.blockNumber, generation.transitionCursor.blockHash⟩]

def checkpointAnchor (scan : FinalizedAuthorityTransitionScan) : BlockAnchor :=
  ⟨scan.checkpoint.verifiedThroughBlock.blockNumber, scan.checkpoint.verifiedThroughBlock.blockHash⟩

def scanAnchors (scan : FinalizedAuthorityTransitionScan) : List BlockAnchor :=
  scan.generations.flatMap generationAnchors ++ [checkpointAnchor scan]

def blockAnchors (scans : Scans) : List BlockAnchor := scans.flatMap scanAnchors

def NamesOneChain (anchors : List BlockAnchor) : Prop :=
  ∀ a ∈ anchors, ∀ b ∈ anchors, a.blockNumber = b.blockNumber → a.blockHash = b.blockHash

/-- A generation in the last block of the range has the hash that the range ends with. -/
def EndsOnItsChain (scan : FinalizedAuthorityTransitionScan) : Prop :=
  ∀ generation ∈ scan.generations,
    generation.activatedAtBlock.blockNumber = scan.checkpoint.verifiedThroughBlock.blockNumber →
      generation.activatedAtBlock.blockHash = scan.checkpoint.verifiedThroughBlock.blockHash

section

/-- Blocks grow, and two generations of one block name one hash. -/
def SameChain (previous next : AuthorityGeneration) : Prop :=
  blockOf previous ≤ blockOf next ∧ (blockOf previous = blockOf next →
    previous.activatedAtBlock.blockHash = next.activatedAtBlock.blockHash)

theorem SameChain.trans {a b c : AuthorityGeneration} (first : SameChain a b)
    (second : SameChain b c) : SameChain a c := by
  refine ⟨first.1.trans second.1, fun same => ?_⟩
  have hfirst : blockOf a = blockOf b := le_antisymm first.1 (same ▸ second.1)
  exact (first.2 hfirst).trans (second.2 (hfirst.symm.trans same))

theorem sameChain_of_successor {previous next : AuthorityGeneration}
    (h : assertSuccessorAuthorityGeneration previous next = .ok ()) : SameChain previous next := by
  unfold assertSuccessorAuthorityGeneration at h
  obtain ⟨hlinked, h⟩ := guard_ok.mp h
  obtain ⟨-, -, h⟩ := bind_ok.mp h
  obtain ⟨hordered, -⟩ := guard_ok.mp h
  push Not at hlinked hordered
  obtain ⟨-, -, -, -, -, -, hblock⟩ := hlinked
  exact ⟨hblock, fun same => (hordered (Subtype.ext same.symm)).1.symm⟩

variable {policy : FinalityPolicy} {now : CanonicalInstant}
  {sources : List AuthorityTransitionSource} {start finish : Nat}
  {prior : Option AuthorityGeneration} {generations : List AuthorityGeneration}

theorem sameChain_of_listed (listed : Listed policy now sources start finish prior generations) :
    generations.Pairwise SameChain :=
  (descends_of_listed listed).pairwise SameChain.trans fun _ _ follows =>
    sameChain_of_successor follows

end

section

variable {H : HashFunction} {policy : FinalityPolicy} {expected : ScanExpectation}
  {scan : FinalizedAuthorityTransitionScan} {last : AuthorityGeneration} {scans : Scans}

theorem mem_scanAnchors {anchor : BlockAnchor} (accepted : Accepted H policy expected scan last)
    (h : anchor ∈ scanAnchors scan) : anchor = checkpointAnchor scan ∨
      ∃ generation ∈ scan.generations, anchor =
        ⟨generation.activatedAtBlock.blockNumber, generation.activatedAtBlock.blockHash⟩ := by
  rcases List.mem_append.mp h with hgenerations | hcheckpoint
  · obtain ⟨generation, hgeneration, hanchor⟩ := List.mem_flatMap.mp hgenerations
    obtain ⟨wellFormed, -⟩ := mem_of_listed accepted.listed generation hgeneration
    refine .inr ⟨generation, hgeneration, ?_⟩
    rcases List.mem_cons.mp hanchor with rfl | hcursor
    · rfl
    · rw [List.mem_singleton.mp hcursor, wellFormed.number, wellFormed.hash]
  · exact .inl (List.mem_singleton.mp hcheckpoint)

theorem scanAnchors_inside {anchor : BlockAnchor} (accepted : Accepted H policy expected scan last)
    (h : anchor ∈ scanAnchors scan) :
    rangeStart scan ≤ anchor.blockNumber.val ∧ anchor.blockNumber.val ≤ rangeEnd scan := by
  rcases mem_scanAnchors accepted h with rfl | ⟨generation, hgeneration, rfl⟩
  · exact ⟨accepted.forward, Nat.le_refl _⟩
  · exact (mem_of_listed accepted.listed generation hgeneration).2

theorem scanAnchors_oneChain (accepted : Accepted H policy expected scan last)
    (ends : EndsOnItsChain scan) : NamesOneChain (scanAnchors scan) := by
  have agree : ∀ generation ∈ scan.generations, ∀ other ∈ scan.generations,
      blockOf generation = blockOf other →
        generation.activatedAtBlock.blockHash = other.activatedAtBlock.blockHash := by
    have pairs : scan.generations.Pairwise fun a b => blockOf a = blockOf b →
        a.activatedAtBlock.blockHash = b.activatedAtBlock.blockHash :=
      (sameChain_of_listed accepted.listed).imp fun same => same.2
    have symmetric : Std.Symm fun a b : AuthorityGeneration => blockOf a = blockOf b →
        a.activatedAtBlock.blockHash = b.activatedAtBlock.blockHash :=
      ⟨fun _ _ h same => (h same.symm).symm⟩
    intro generation hgeneration other hother
    exact List.Pairwise.forall_of_forall (fun _ _ _ => rfl) pairs hgeneration hother
  intro a ha b hb same
  rcases mem_scanAnchors accepted ha with rfl | ⟨generation, hgeneration, rfl⟩ <;>
    rcases mem_scanAnchors accepted hb with rfl | ⟨other, hother, rfl⟩
  · rfl
  · exact (ends other hother same.symm).symm
  · exact ends generation hgeneration same
  · exact agree generation hgeneration other hother (congrArg Subtype.val same)

end

section

variable (H : HashFunction)

/-- An accepted history names one chain exactly when each of its ranges ends on its own chain. -/
theorem history_names_one_chain_iff (requests : List ScanRequest) :
    NamesOneChain (blockAnchors (acceptScans H requests)) ↔
      ∀ scan ∈ acceptScans H requests, EndsOnItsChain scan := by
  have accepted : ∀ scan ∈ acceptScans H requests, ∃ policy expected last,
      Accepted H policy expected scan last := by
    intro scan hscan
    obtain ⟨front, back, h⟩ := List.append_of_mem hscan
    obtain ⟨request, parsed⟩ := parsed_acceptScans requests front scan back h
    obtain ⟨last, accepted⟩ := accepted_of_parse parsed
    exact ⟨_, _, last, accepted⟩
  constructor
  · intro one scan hscan generation hgeneration same
    refine one ⟨generation.activatedAtBlock.blockNumber, generation.activatedAtBlock.blockHash⟩ ?_
      (checkpointAnchor scan) ?_ same
    · exact List.mem_flatMap.mpr ⟨scan, hscan, List.mem_append_left _ (List.mem_flatMap.mpr
        ⟨generation, hgeneration, List.mem_cons_self⟩)⟩
    · exact List.mem_flatMap.mpr ⟨scan, hscan, List.mem_append_right _ (List.mem_singleton.mpr rfl)⟩
  · intro ends a ha b hb same
    obtain ⟨scan, hscan, ha⟩ := List.mem_flatMap.mp ha
    obtain ⟨other, hother, hb⟩ := List.mem_flatMap.mp hb
    obtain ⟨policy, expected, last, here⟩ := accepted scan hscan
    obtain ⟨policy', expected', last', there⟩ := accepted other hother
    have gapFree := acceptScans_gapFree H requests
    have apart : (acceptScans H requests).Pairwise fun scan later =>
        rangeEnd scan < rangeStart later ∨ rangeEnd later < rangeStart scan :=
      (ranges_apart gapFree.contiguous gapFree.forward).imp Or.inl
    have symmetric : Std.Symm fun scan later : FinalizedAuthorityTransitionScan =>
        rangeEnd scan < rangeStart later ∨ rangeEnd later < rangeStart scan := ⟨fun _ _ => Or.symm⟩
    by_cases equal : scan = other
    · subst equal
      exact scanAnchors_oneChain here (ends scan hscan) a ha b hb same
    · have hinside := scanAnchors_inside here ha
      have hinside' := scanAnchors_inside there hb
      have hnumber := congrArg Subtype.val same
      have hapart := apart.forall hscan hother equal
      omega

end

/-- The end of a range whose hash is not that of the generation in the same block. -/
def forkedAnchor : FinalizedBlockAnchor := { sampleAnchor one with blockHash := otherHash }

def forkedBody : CheckpointBody :=
  ⟨⟨"checkpoint", isAuthorityId_checkpoint⟩, sampleProject, manifest, revision, sampleHash, none,
    none, one, forkedAnchor, 1, one, idA, one, sampleCursor one bootstrapId, sampleHash⟩

def forkedScan : FinalizedAuthorityTransitionScan := ⟨⟨forkedBody, sampleHash⟩, [firstGeneration]⟩

def forkedRequest : ScanRequest where
  value := scanJson forkedScan
  policy := samplePolicy
  expected := ⟨sampleProject, revision, sampleSources, none, none, one, forkedAnchor,
    sampleInstant⟩

theorem forkedRequest_accepted : acceptScan zeroDigests [] forkedRequest = [forkedScan] := by
  have hbody : isPlain (checkpointJson forkedBody) = true := isPlain_checkpoint (by decide)
  obtain ⟨chain, few, distinct, sorted, quorum, past⟩ := sampleAnchored one
  have acceptable : Acceptable zeroDigests samplePolicy (expectation [] forkedRequest) forkedScan
      firstGeneration := {
    few := by decide
    project := rfl
    chain := rfl
    manifest := rfl
    adapter := rfl
    sources := sampleDigest rfl
    previous := rfl
    start := rfl
    anchored := ⟨chain, few, distinct, sorted, quorum, past⟩
    through := rfl
    forward := by decide
    attached := rfl
    listed := ⟨⟨⟨by decide, rfl, rfl, sampleAnchored one, rfl, rfl, rfl⟩, by decide, by decide, rfl,
      ok_of_isOk (by decide +kernel)⟩, trivial⟩
    final := rfl
    count := rfl
    cumulative := rfl
    lastId := rfl
    lastSequence := rfl
    lastCursor := rfl
    lastPlace := ⟨rfl, rfl, rfl⟩
    transitions := sampleDigest (by
      simp only [isPlain_record, membersPlain_cons, isPlain_text, isPlain_array,
        entriesPlain_map isPlain_generation, membersPlain_nil, Bool.and_self])
    fresh := (Option.some_ne_none _).symm
    closed := sampleDigest (by
      rw [isPlain_record, membersPlain_cons, membersPlain_cons]
      change (true && (isPlain (checkpointJson forkedBody) && true)) = true
      rw [hbody]
      rfl) }
  exact acceptScan_of_ok (parseScan_scanJson acceptable)

/-- A scan is accepted whose one generation and whose end name two hashes for block one. -/
theorem history_names_two_chains :
    ¬ NamesOneChain (blockAnchors (acceptScans zeroDigests [forkedRequest])) := by
  rw [acceptScans, List.foldl_cons, List.foldl_nil, forkedRequest_accepted]
  intro one
  exact otherHash_ne (one (checkpointAnchor forkedScan) (by decide)
    ⟨firstGeneration.activatedAtBlock.blockNumber, sampleHash⟩ (by decide) rfl)

end JbChat.Authority.AnchorHashes
