/- source: src/production/authority/delegations.ts, decisions.ts
   digest: The history that accepted scans make, and what its neighbours do not exclude. -/

import JbChat.Authority.ScanAcceptance
import Mathlib.Data.Prod.Lex

set_option autoImplicit false

namespace JbChat.Authority.TransitionHistory

open Foundation.HashTrace Foundation.Transaction
open Foundation.Lineage ValueObjects Finality Transitions ScanAcceptance

section

variable (H : HashFunction)

/-- A scan that is offered, and what is expected of it but for its predecessors. -/
structure ScanRequest where
  value : JsonValue
  policy : FinalityPolicy
  expected : ScanExpectation

abbrev Scans := List FinalizedAuthorityTransitionScan

def reported (scans : Scans) : List AuthorityGeneration :=
  scans.flatMap fun scan => scan.generations

/-- What a request is checked against after the accepted scans. -/
def expectation (scans : Scans) (request : ScanRequest) : ScanExpectation :=
  { request.expected with
    previousCheckpoint := scans.getLast?.map fun scan => scan.checkpoint
    previousGeneration := (reported scans).getLast? }

def acceptScan (scans : Scans) (request : ScanRequest) : Scans :=
  match parseFinalizedAuthorityTransitionScan H request.value request.policy
      (expectation scans request) with
  | .ok scan => scans ++ [scan]
  | .error _ => scans

/-- The accepted scans among those offered one after another. -/
def acceptScans (requests : List ScanRequest) : Scans := requests.foldl (acceptScan H) []

end

section

def blockOf (generation : AuthorityGeneration) : Nat := generation.activatedAtBlock.blockNumber.val

def place (generation : AuthorityGeneration) : ℕ ×ₗ ℕ :=
  toLex (blockOf generation, generation.transitionCursor.logIndex.val)

def rangeStart (scan : FinalizedAuthorityTransitionScan) : Nat :=
  scan.checkpoint.rangeStartBlockNumber.val

def rangeEnd (scan : FinalizedAuthorityTransitionScan) : Nat :=
  scan.checkpoint.verifiedThroughBlock.blockNumber.val

/-- A generation after the one before it. -/
def Follows : Option AuthorityGeneration → AuthorityGeneration → Prop
  | none, next => next.sequence.val = 1 ∧ next.predecessorGenerationId = none
  | some previous, next => next.sequence.val = previous.sequence.val + 1 ∧
      next.predecessorGenerationId = some previous.generationId ∧ place previous < place next ∧
      previous.generationId ≠ next.generationId ∧ previous.rootEvidenceId ≠ next.rootEvidenceId

variable {previous next : AuthorityGeneration} {prior : Option AuthorityGeneration}

theorem compareTransitionCursors_pos {left right : AuthorityTransitionCursor}
    (h : ¬ compareTransitionCursors left right ≤ 0) : right.logIndex.val < left.logIndex.val := by
  unfold compareTransitionCursors at h
  split at h
  · exact absurd (Int.le_refl 0) h
  · omega

theorem assertSuccessor_eq_ok
    (h : assertSuccessorAuthorityGeneration previous next = .ok ()) :
    Follows (some previous) next := by
  unfold assertSuccessorAuthorityGeneration at h
  obtain ⟨hlinked, h⟩ := guard_ok.mp h
  obtain ⟨-, -, h⟩ := bind_ok.mp h
  obtain ⟨hordered, -⟩ := guard_ok.mp h
  push Not at hlinked hordered
  obtain ⟨-, hid, hpredecessor, hevidence, -, hsequence, hblock⟩ := hlinked
  refine ⟨hsequence, hpredecessor, ?_, hid.symm, hevidence.symm⟩
  rw [place, place, Prod.Lex.toLex_lt_toLex]
  rcases Nat.lt_or_eq_of_le hblock with hlater | hsame
  · exact Or.inl hlater
  · have hcursor := (hordered (Subtype.ext hsame.symm)).2
    exact Or.inr ⟨hsame, compareTransitionCursors_pos (Int.not_le.mpr hcursor)⟩

theorem assertFollows_eq_ok (h : assertFollows prior next = .ok ()) : Follows prior next := by
  unfold assertFollows at h
  cases prior with
  | none =>
    obtain ⟨hfirst, -⟩ := guard_ok.mp h
    push Not at hfirst
    exact hfirst
  | some previous => exact assertSuccessor_eq_ok h

end

section

variable {H : HashFunction} {policy : FinalityPolicy} {expected : ScanExpectation}
  {value : JsonValue} {scan : FinalizedAuthorityTransitionScan}

/-- What an accepted scan is, beside what was expected. -/
structure Continues (expected : ScanExpectation) (scan : FinalizedAuthorityTransitionScan) :
    Prop where
  start : rangeStart scan = expectedRangeStart expected
  forward : rangeStart scan ≤ rangeEnd scan
  descends : Descends Follows expected.previousGeneration scan.generations
  inside : ∀ generation ∈ scan.generations,
    rangeStart scan ≤ blockOf generation ∧ blockOf generation ≤ rangeEnd scan
  counted : scan.checkpoint.cumulativeTransitionCount.val =
    ((expected.previousCheckpoint.map fun checkpoint =>
      checkpoint.cumulativeTransitionCount.val).getD 0) + scan.generations.length
  last : ∃ last, lastGeneration expected.previousGeneration scan.generations = some last ∧
    scan.checkpoint.lastGenerationId = last.generationId ∧
    scan.checkpoint.lastGenerationSequence = last.sequence
  fresh : expected.previousCheckpoint.map (fun previous => previous.checkpointId) ≠
    some scan.checkpoint.checkpointId

theorem parseScan_eq_ok
    (h : parseFinalizedAuthorityTransitionScan H value policy expected = .ok scan) :
    Continues expected scan := by
  obtain ⟨last, accepted⟩ := accepted_of_parse h
  exact
    { start := accepted.start
      forward := accepted.forward
      descends := (descends_of_listed accepted.listed).imp assertFollows_eq_ok
      inside := fun generation hmem => (mem_of_listed accepted.listed generation hmem).2
      counted := accepted.cumulative
      last := ⟨last, accepted.final, accepted.lastId, accepted.lastSequence⟩
      fresh := accepted.fresh }

end

section

variable {H : HashFunction} {scans : Scans} {request : ScanRequest}
  {scan : FinalizedAuthorityTransitionScan}

structure GapFree (scans : Scans) : Prop where
  contiguous : scans.IsChain fun scan next => rangeStart next = rangeEnd scan + 1
  forward : ∀ scan ∈ scans, rangeStart scan ≤ rangeEnd scan
  numbered : ∀ front generation back, reported scans = front ++ generation :: back →
    generation.sequence.val = front.length + 1 ∧ generation.predecessorGenerationId =
      front.getLast?.map fun previous => previous.generationId
  ordered : (reported scans).Pairwise fun generation later => place generation < place later
  inside : ∀ scan ∈ scans, ∀ generation ∈ scan.generations,
    rangeStart scan ≤ blockOf generation ∧ blockOf generation ≤ rangeEnd scan
  counted : ∀ front scan back, scans = front ++ scan :: back →
    scan.checkpoint.cumulativeTransitionCount.val = (reported (front ++ [scan])).length ∧
      ∃ last, (reported (front ++ [scan])).getLast? = some last ∧
        scan.checkpoint.cumulativeTransitionCount = last.sequence ∧
        scan.checkpoint.lastGenerationSequence = last.sequence ∧
        scan.checkpoint.lastGenerationId = last.generationId

/-- What every accepted scan was checked against. -/
def Chained (scans : Scans) : Prop :=
  ∀ front scan back, scans = front ++ scan :: back →
    ∃ request, Continues (expectation front request) scan

/-- Every scan of a history was accepted behind the scans before it. -/
def Parsed (H : HashFunction) (scans : Scans) : Prop :=
  ∀ front scan back, scans = front ++ scan :: back → ∃ request : ScanRequest,
    parseFinalizedAuthorityTransitionScan H request.value request.policy
      (expectation front request) = .ok scan

theorem parsed_acceptScan (parsed : Parsed H scans) : Parsed H (acceptScan H scans request) := by
  unfold acceptScan
  split
  next scan hscan =>
    intro front other back h
    rcases List.eq_nil_or_concat back with rfl | ⟨back, last, rfl⟩
    · obtain ⟨rfl, hsame⟩ := List.append_inj' h rfl
      obtain rfl := List.singleton_inj.mp hsame
      exact ⟨request, hscan⟩
    · rw [List.concat_eq_append, ← List.cons_append, ← List.append_assoc] at h
      exact parsed front other back (List.append_inj' h rfl).1
  · exact parsed

theorem parsed_acceptScans (requests : List ScanRequest) : Parsed H (acceptScans H requests) := by
  have run : ∀ scans, Parsed H scans → Parsed H (requests.foldl (acceptScan H) scans) := by
    induction requests with
    | nil => exact fun _ parsed => parsed
    | cons request requests ih => exact fun scans parsed => ih _ (parsed_acceptScan parsed)
  exact run [] fun front scan back h => absurd h (by simp)

theorem chained_acceptScans (requests : List ScanRequest) : Chained (acceptScans H requests) := by
  intro front scan back h
  obtain ⟨request, parsed⟩ := parsed_acceptScans requests front scan back h
  exact ⟨request, parseScan_eq_ok parsed⟩

theorem reported_append (front back : Scans) :
    reported (front ++ back) = reported front ++ reported back := List.flatMap_append

theorem reported_singleton (scan : FinalizedAuthorityTransitionScan) :
    reported [scan] = scan.generations := List.append_nil _

theorem lastOf_none (generations : List AuthorityGeneration) :
    lastOf none generations = generations.getLast? := Option.or_none

theorem Chained.dropLast (chained : Chained (scans ++ [scan])) : Chained scans :=
  fun front other back h => chained front other (back ++ [scan]) (by rw [h]; simp)

theorem Chained.descends (chained : Chained scans) : Descends Follows none (reported scans) := by
  induction scans using List.reverseRecOn with
  | nil => exact trivial
  | append_singleton scans scan ih =>
    obtain ⟨request, continues⟩ := chained scans scan [] rfl
    rw [reported_append, reported_singleton, descends_append, lastOf_none]
    exact ⟨ih chained.dropLast, continues.descends⟩

theorem Chained.contiguous (chained : Chained scans) :
    scans.IsChain fun scan next => rangeStart next = rangeEnd scan + 1 := by
  induction scans using List.reverseRecOn with
  | nil => exact List.isChain_nil
  | append_singleton scans scan ih =>
    obtain ⟨request, continues⟩ := chained scans scan [] rfl
    refine List.isChain_append.mpr ⟨ih chained.dropLast, List.isChain_singleton _, ?_⟩
    intro last hlast next hnext
    cases hnext
    have hstart := continues.start
    unfold expectedRangeStart expectation at hstart
    rw [Option.mem_def.mp hlast] at hstart
    exact hstart

theorem lastGeneration_eq (front : Scans) (scan : FinalizedAuthorityTransitionScan)
    (request : ScanRequest) :
    lastGeneration (expectation front request).previousGeneration scan.generations =
      (reported (front ++ [scan])).getLast? := by
  rw [reported_append, reported_singleton, List.getLast?_append]
  rfl

theorem Chained.cumulative (chained : Chained scans) (h : scans.getLast? = some scan) :
    scan.checkpoint.cumulativeTransitionCount.val = (reported scans).length := by
  induction scans using List.reverseRecOn generalizing scan with
  | nil => cases h
  | append_singleton scans last ih =>
    rw [List.getLast?_append_of_ne_nil _ (List.cons_ne_nil _ _), List.getLast?_singleton] at h
    cases h
    obtain ⟨request, continues⟩ := chained scans last [] rfl
    rw [continues.counted, reported_append, reported_singleton, List.length_append]
    unfold expectation
    dsimp only
    cases hprevious : scans.getLast? with
    | none =>
      rw [List.getLast?_eq_none_iff.mp hprevious]
      rfl
    | some previous =>
      rw [← ih chained.dropLast hprevious]
      rfl

theorem Chained.gapFree (chained : Chained scans) : GapFree scans where
  contiguous := chained.contiguous
  forward := by
    intro scan hscan
    obtain ⟨front, back, h⟩ := List.append_of_mem hscan
    obtain ⟨request, continues⟩ := chained front scan back h
    exact continues.forward
  numbered := by
    intro front generation back h
    refine ⟨chained.descends.number_eq (fun _ first => first.1) (fun _ _ next => next.1) h, ?_⟩
    have hfollows := chained.descends.follows_at h
    rw [lastOf_none] at hfollows
    cases hlast : front.getLast? with
    | none =>
      rw [hlast] at hfollows
      exact hfollows.2
    | some previous =>
      rw [hlast] at hfollows
      exact hfollows.2.1
  ordered := chained.descends.pairwise (fun hab hbc => lt_trans hab hbc)
    fun _ _ next => next.2.2.1
  inside := by
    intro scan hscan
    obtain ⟨front, back, h⟩ := List.append_of_mem hscan
    obtain ⟨request, continues⟩ := chained front scan back h
    exact continues.inside
  counted := by
    intro front scan back h
    have here : Chained (front ++ [scan]) := by
      intro before other rest hsplit
      refine chained before other (rest ++ back) ?_
      rw [h, ← List.singleton_append, ← List.append_assoc, hsplit, List.append_assoc,
        List.cons_append]
    have hcount := here.cumulative List.getLast?_concat
    obtain ⟨request, continues⟩ := chained front scan back h
    obtain ⟨last, hlast, hid, hsequence⟩ := continues.last
    rw [lastGeneration_eq] at hlast
    obtain ⟨before, hbefore⟩ := List.getLast?_eq_some_iff.mp hlast
    have hnumber := here.descends.number_eq (fun _ first => first.1) (fun _ _ next => next.1)
      hbefore
    refine ⟨hcount, last, hlast, Subtype.ext ?_, hsequence, hid⟩
    rw [hcount, hnumber, hbefore, List.length_append, List.length_singleton]

theorem ranges_apart
    (contiguous : scans.IsChain fun scan next => rangeStart next = rangeEnd scan + 1)
    (forward : ∀ scan ∈ scans, rangeStart scan ≤ rangeEnd scan) :
    scans.Pairwise fun scan later => rangeEnd scan < rangeStart later := by
  induction scans with
  | nil => exact List.Pairwise.nil
  | cons scan scans ih =>
    have rest := ih contiguous.tail fun other hother =>
      forward other (List.mem_cons_of_mem _ hother)
    refine List.pairwise_cons.mpr ⟨?_, rest⟩
    cases scans with
    | nil => exact fun _ h => absurd h List.not_mem_nil
    | cons next scans =>
      have hnext : rangeStart next = rangeEnd scan + 1 := contiguous.rel
      have hforward := forward next (List.mem_cons_of_mem _ List.mem_cons_self)
      intro later hlater
      rcases List.mem_cons.mp hlater with rfl | hlater
      · omega
      · have hafter := (List.pairwise_cons.mp rest).1 later hlater
        omega

theorem GapFree.ends_rise (gapFree : GapFree scans) :
    scans.Pairwise fun scan later => rangeEnd scan < rangeEnd later := by
  refine (ranges_apart gapFree.contiguous gapFree.forward).imp_of_mem fun _ hlater hapart => ?_
  exact hapart.trans_le (gapFree.forward _ hlater)

end

section

variable (H : HashFunction)

/-- Accepted scans make one gap-free ordered chain. -/
theorem acceptScans_gapFree (requests : List ScanRequest) : GapFree (acceptScans H requests) :=
  (chained_acceptScans requests).gapFree

end

end JbChat.Authority.TransitionHistory
