/- source: src/production/authority/delegations.ts, decisions.ts
   digest: Identifiers that come back in an accepted history, and the leases that they revive. -/

import JbChat.Authority.ScanRendering
import JbChat.Authority.TransitionHistory

set_option autoImplicit false

namespace JbChat.Authority.GenerationReuse

open Foundation.HashTrace Foundation.Transaction
open Foundation.Lineage ValueObjects Digests Finality Transitions TransitionHistory ScanRendering
open ScanAcceptance

inductive AuthorityEvidenceKind where
  | walletSignature
  | devicePossession
  | deviceCredential
  | finalizedReceipt
  | purchaseBeneficiary
  | tierPurchase
  | projectRoot
  | authorityGeneration
  | staffDelegation
  | refundLedger
deriving DecidableEq

/-- What the check of a lease reads of an evidence reference. -/
structure AuthorityEvidenceReference where
  evidenceKind : AuthorityEvidenceKind
  generationId : Option AuthorityId

/-- The generation that a lease binds, if the evidence of its decision is bound to the same. -/
def parseLeaseGeneration (isProjectStaff : Bool) (value : JsonValue)
    (evidence : List AuthorityEvidenceReference) : Checked (Option AuthorityId) := do
  let authorityGenerationId ← parseNullable value
    fun value => parseAuthorityId value "authorityGenerationId"
  if isProjectStaff ≠ authorityGenerationId.isSome then
    invalid "Only project-staff leases bind an authority generation."
  else if authorityGenerationId.isSome ∧ ∃ item ∈ evidence,
      item.generationId ≠ none ∧ item.generationId ≠ authorityGenerationId then
    invalid "Eligible evidence is bound to a different authority generation."
  else if authorityGenerationId.isSome ∧ ∃ item ∈ evidence,
      (item.evidenceKind = .authorityGeneration ∨ item.evidenceKind = .staffDelegation) ∧
        item.generationId ≠ authorityGenerationId then
    invalid "Staff evidence does not bind the exact active authority generation."
  else .ok authorityGenerationId

def BoundTo (generation : AuthorityGeneration) (evidence : List AuthorityEvidenceReference) :
    Prop :=
  ∃ item ∈ evidence, item.generationId = some generation.generationId

def LeaseAccepted (id : AuthorityId) (evidence : List AuthorityEvidenceReference) : Prop :=
  ∃ isProjectStaff bound,
    parseLeaseGeneration isProjectStaff (.text id.val) evidence = .ok bound

theorem LeaseAccepted.eq_of_bound {id : AuthorityId} {generation : AuthorityGeneration}
    {evidence : List AuthorityEvidenceReference} (accepted : LeaseAccepted id evidence)
    (bound : BoundTo generation evidence) : id = generation.generationId := by
  obtain ⟨isProjectStaff, result, h⟩ := accepted
  obtain ⟨item, hitem, hbound⟩ := bound
  unfold parseLeaseGeneration parseNullable at h
  obtain ⟨lease, hlease, h⟩ := bind_ok.mp h
  change (parseAuthorityId (.text id.val) _).map some = _ at hlease
  rw [parseAuthorityId_text] at hlease
  cases hlease
  obtain ⟨-, h⟩ := guard_ok.mp h
  obtain ⟨hsame, -⟩ := guard_ok.mp h
  by_contra hne
  refine hsame ⟨rfl, item, hitem, by rw [hbound]; exact Option.some_ne_none _, ?_⟩
  rw [hbound]
  exact fun hsome => hne (Option.some.inj hsome).symm

section

variable (H : HashFunction)

def checkpointIds (scans : Scans) : List AuthorityId :=
  scans.map fun scan => scan.checkpoint.checkpointId

/-- No identifier is used twice, and a lease under a replaced generation is never accepted with
evidence that is bound to a later one. -/
structure NeverReturns (scans : Scans) : Prop where
  generations : ((reported scans).map fun generation => generation.generationId).Nodup
  rootEvidence : ((reported scans).map fun generation => generation.rootEvidenceId).Nodup
  checkpoints : (checkpointIds scans).Nodup
  leases : ∀ front replaced middle later back,
    reported scans = front ++ replaced :: (middle ++ later :: back) →
      ∀ evidence, BoundTo later evidence → ¬ LeaseAccepted replaced.generationId evidence

/-- The entries of a value that is an array. -/
def entriesOf : JsonValue → List JsonValue
  | .array entries => entries
  | _ => []

def membersOf : JsonValue → Members
  | .record members => members
  | _ => []

/-- The generations that an offered scan lists, each item read by itself. -/
def offeredGenerations (request : ScanRequest) : List AuthorityGeneration :=
  (entriesOf (property (membersOf request.value) "generations")).filterMap fun item =>
    (parseAuthorityGeneration item request.policy request.expected.now).toOption

/-- The checkpoint ID of an offered scan, with the block that the scan says it reaches. -/
def offeredCheckpoint (request : ScanRequest) : Option (AuthorityId × Nat) := do
  let record := membersOf (property (membersOf request.value) "checkpoint")
  let checkpointId ← (parseAuthorityId (property record "checkpointId")
    "authority transition checkpoint ID").toOption
  let verifiedThroughBlock ← (parseFinalizedBlockAnchor (property record "verifiedThroughBlock")
    request.policy request.expected.now).toOption
  some (checkpointId, verifiedThroughBlock.blockNumber.val)

/-- In what is offered, an identifier of a generation stands for one block and log index, and a
checkpoint ID for one verified block. -/
structure NamesPlaces (requests : List ScanRequest) : Prop where
  generations : ∀ a ∈ requests.flatMap offeredGenerations,
    ∀ b ∈ requests.flatMap offeredGenerations, a.generationId = b.generationId → place a = place b
  rootEvidence : ∀ a ∈ requests.flatMap offeredGenerations,
    ∀ b ∈ requests.flatMap offeredGenerations,
      a.rootEvidenceId = b.rootEvidenceId → place a = place b
  checkpoints : ∀ a ∈ requests.filterMap offeredCheckpoint,
    ∀ b ∈ requests.filterMap offeredCheckpoint, a.1 = b.1 → a.2 = b.2

variable {H} {scans : Scans} {request : ScanRequest} {requests : List ScanRequest}
  {scan : FinalizedAuthorityTransitionScan}

theorem parseGenerations_offered {policy : FinalityPolicy} {now : CanonicalInstant}
    {sources : List AuthorityTransitionSource} {rangeStart rangeEnd : Nat}
    {prior : Option AuthorityGeneration} {items : List JsonValue}
    {generations : List AuthorityGeneration}
    (h : parseGenerations policy now sources rangeStart rangeEnd prior items = .ok generations) :
    items.filterMap (fun item => (parseAuthorityGeneration item policy now).toOption) =
      generations := by
  induction items generalizing prior generations with
  | nil => exact Except.ok.inj h
  | cons item items ih =>
    unfold parseGenerations at h
    obtain ⟨generation, hgeneration, h⟩ := bind_ok.mp h
    obtain ⟨-, h⟩ := guard_ok.mp h
    obtain ⟨⟨⟩, -, h⟩ := bind_ok.mp h
    obtain ⟨⟨⟩, -, h⟩ := bind_ok.mp h
    obtain ⟨rest, hrest, h⟩ := bind_ok.mp h
    cases h
    rw [List.filterMap_cons, hgeneration]
    exact congrArg (generation :: ·) (ih hrest)

theorem expectExactRecord_members {value : JsonValue} {keys : List String} {label : String}
    {members : Members} (h : expectExactRecord value keys label = .ok members) :
    membersOf value = members := by
  unfold expectExactRecord at h
  split at h
  · exact Except.ok.inj (guard_ok.mp h).2
  · cases h

theorem scanItems_entries {value : JsonValue} {items : List JsonValue}
    (h : scanItems value = .ok items) : entriesOf value = items := by
  unfold scanItems at h
  split at h
  · exact Except.ok.inj (guard_ok.mp h).2
  · cases h

theorem parseCheckpointHead_through {policy : FinalityPolicy} {expected : ScanExpectation}
    {record : Members} {head : CheckpointHead}
    (h : parseCheckpointHead H policy expected record = .ok head) :
    parseFinalizedBlockAnchor (property record "verifiedThroughBlock") policy expected.now =
      .ok head.verifiedThroughBlock := by
  unfold parseCheckpointHead at h
  obtain ⟨⟨project, manifest, adapter, sources⟩, -, h⟩ := bind_ok.mp h
  obtain ⟨previousId, -, h⟩ := bind_ok.mp h
  obtain ⟨previousDigest, -, h⟩ := bind_ok.mp h
  obtain ⟨start, -, h⟩ := bind_ok.mp h
  obtain ⟨-, h⟩ := guard_ok.mp h
  obtain ⟨through, hthrough, h⟩ := bind_ok.mp h
  obtain ⟨scanned, -, h⟩ := bind_ok.mp h
  obtain ⟨asked, -, h⟩ := bind_ok.mp h
  obtain ⟨-, h⟩ := guard_ok.mp h
  cases h
  exact hthrough

theorem parseCheckpointBody_id {expected : ScanExpectation} {record : Members}
    {head : CheckpointHead} {generations : List AuthorityGeneration} {last : AuthorityGeneration}
    {body : CheckpointBody}
    (h : parseCheckpointBody H expected record head generations last = .ok body) :
    parseAuthorityId (property record "checkpointId") "authority transition checkpoint ID" =
      .ok body.checkpointId := by
  unfold parseCheckpointBody at h
  obtain ⟨count, -, h⟩ := bind_ok.mp h
  obtain ⟨cumulative, -, h⟩ := bind_ok.mp h
  obtain ⟨transitions, -, h⟩ := bind_ok.mp h
  obtain ⟨⟨⟩, -, h⟩ := bind_ok.mp h
  obtain ⟨cursor, -, h⟩ := bind_ok.mp h
  obtain ⟨named, -, h⟩ := bind_ok.mp h
  obtain ⟨final, -, h⟩ := bind_ok.mp h
  obtain ⟨-, h⟩ := guard_ok.mp h
  obtain ⟨checkpointId, hid, h⟩ := bind_ok.mp h
  cases h
  exact hid

/-- An accepted scan reports what was offered, whatever it was checked against. -/
theorem parseScan_offered {expected : ScanExpectation} (hnow : expected.now = request.expected.now)
    (h : parseFinalizedAuthorityTransitionScan H request.value request.policy expected =
      .ok scan) :
    offeredGenerations request = scan.generations ∧
      offeredCheckpoint request = some (scan.checkpoint.checkpointId, rangeEnd scan) := by
  unfold parseFinalizedAuthorityTransitionScan at h
  obtain ⟨scanRecord, hscanRecord, h⟩ := bind_ok.mp h
  obtain ⟨-, h⟩ := guard_ok.mp h
  obtain ⟨items, hitems, h⟩ := bind_ok.mp h
  obtain ⟨record, hrecord, h⟩ := bind_ok.mp h
  obtain ⟨-, h⟩ := guard_ok.mp h
  obtain ⟨head, hhead, h⟩ := bind_ok.mp h
  obtain ⟨-, -, h⟩ := bind_ok.mp h
  obtain ⟨generations, hgenerations, h⟩ := bind_ok.mp h
  cases hlast : lastGeneration expected.previousGeneration generations with
  | none =>
    rw [hlast] at h
    cases h
  | some last =>
    rw [hlast] at h
    obtain ⟨body, hbody, h⟩ := bind_ok.mp h
    obtain ⟨checkpoint, hcheckpoint, h⟩ := bind_ok.mp h
    cases h
    have hthrough := parseCheckpointHead_through hhead
    have hid := parseCheckpointBody_id hbody
    obtain ⟨rfl, -⟩ := sealed_of_parse hcheckpoint
    obtain rfl := (counted_of_parse hbody).kept
    rw [hnow] at hgenerations hthrough
    unfold offeredGenerations offeredCheckpoint rangeEnd
    rw [expectExactRecord_members hscanRecord, scanItems_entries hitems,
      expectExactRecord_members hrecord]
    dsimp only
    rw [hthrough, hid]
    exact ⟨parseGenerations_offered hgenerations, rfl⟩

theorem acceptScans_concat (request : ScanRequest) : acceptScans H (requests ++ [request]) =
    acceptScan H (acceptScans H requests) request := List.foldl_concat ..

theorem acceptScan_cases (scans : Scans) (request : ScanRequest) :
    acceptScan H scans request = scans ∨ ∃ scan, acceptScan H scans request = scans ++ [scan] ∧
      parseFinalizedAuthorityTransitionScan H request.value request.policy
        (expectation scans request) = .ok scan := by
  unfold acceptScan
  split
  next scan hscan => exact Or.inr ⟨scan, rfl, hscan⟩
  · exact Or.inl rfl

theorem acceptScans_length_le (requests : List ScanRequest) :
    (acceptScans H requests).length ≤ requests.length := by
  induction requests using List.reverseRecOn with
  | nil => exact Nat.le_refl 0
  | append_singleton requests request ih =>
    rw [acceptScans_concat, List.length_append, List.length_singleton]
    rcases acceptScan_cases (acceptScans H requests) request with h | ⟨scan, h, -⟩
    · rw [h]
      exact Nat.le_succ_of_le ih
    · rw [h, List.length_append]
      exact Nat.succ_le_succ ih

/-- A chain of accepted scans reports exactly what was offered. -/
theorem acceptScans_offered (accepted : (acceptScans H requests).length = requests.length) :
    reported (acceptScans H requests) = requests.flatMap offeredGenerations ∧
      (acceptScans H requests).map (fun scan => (scan.checkpoint.checkpointId, rangeEnd scan)) =
        requests.filterMap offeredCheckpoint := by
  induction requests using List.reverseRecOn with
  | nil => exact ⟨rfl, rfl⟩
  | append_singleton requests request ih =>
    rw [acceptScans_concat, List.length_append, List.length_singleton] at accepted
    rw [acceptScans_concat]
    rcases acceptScan_cases (acceptScans H requests) request with h | ⟨scan, h, hscan⟩
    · have hbefore := acceptScans_length_le (H := H) requests
      rw [h] at accepted
      omega
    · rw [h, List.length_append, List.length_singleton] at accepted
      have hnow : (expectation (acceptScans H requests) request).now = request.expected.now := rfl
      obtain ⟨hgenerations, hcheckpoint⟩ := parseScan_offered hnow hscan
      obtain ⟨hreported, hmap⟩ := ih (Nat.succ.inj accepted)
      rw [h]
      constructor
      · rw [reported_append, reported_singleton, hreported, List.flatMap_append,
          List.flatMap_singleton, hgenerations]
      · rw [List.map_append, hmap, List.filterMap_append, List.filterMap_cons, hcheckpoint]
        rfl

theorem leases_of_nodup (nodup : ((reported scans).map fun generation =>
      generation.generationId).Nodup) {front middle back : List AuthorityGeneration}
    {replaced later : AuthorityGeneration}
    (h : reported scans = front ++ replaced :: (middle ++ later :: back))
    {evidence : List AuthorityEvidenceReference} (bound : BoundTo later evidence) :
    ¬ LeaseAccepted replaced.generationId evidence := by
  intro accepted
  rw [h, List.map_append, List.map_cons] at nodup
  have fresh := (List.nodup_cons.mp (List.nodup_append.mp nodup).2.1).1
  rw [accepted.eq_of_bound bound] at fresh
  exact fresh (List.mem_map_of_mem (List.mem_append_right _ List.mem_cons_self))

variable (H)

/-- In a chain of accepted scans, identifiers are used once and leases end with their generations
exactly when what was offered gives every identifier one place. -/
theorem acceptScans_neverReturns_iff (requests : List ScanRequest)
    (accepted : (acceptScans H requests).length = requests.length) :
    NeverReturns (acceptScans H requests) ↔ NamesPlaces requests := by
  obtain ⟨hreported, hcheckpoints⟩ := acceptScans_offered accepted
  have gapFree := acceptScans_gapFree H requests
  have hgeneration : ((reported (acceptScans H requests)).map fun generation =>
      generation.generationId).Nodup ↔ _ :=
    nodup_map_iff_places gapFree.ordered
  have hevidence : ((reported (acceptScans H requests)).map fun generation =>
      generation.rootEvidenceId).Nodup ↔ _ :=
    nodup_map_iff_places gapFree.ordered
  have hids : ((acceptScans H requests).map fun scan => scan.checkpoint.checkpointId).Nodup ↔ _ :=
    nodup_map_iff_places gapFree.ends_rise
  rw [hreported] at hgeneration hevidence
  constructor
  · rintro ⟨generations, rootEvidence, checkpoints, -⟩
    rw [hreported] at generations rootEvidence
    refine ⟨hgeneration.mp generations, hevidence.mp rootEvidence, ?_⟩
    rw [← hcheckpoints, List.forall_mem_map]
    intro scan hscan
    rw [List.forall_mem_map]
    exact hids.mp checkpoints scan hscan
  · rintro ⟨generations, rootEvidence, checkpoints⟩
    have nodup := hgeneration.mpr generations
    rw [← hreported] at nodup
    refine ⟨nodup, ?_, hids.mpr fun scan hscan later hlater => ?_, ?_⟩
    · rw [hreported]
      exact hevidence.mpr rootEvidence
    · rw [← hcheckpoints] at checkpoints
      exact checkpoints _ (List.mem_map_of_mem hscan) _ (List.mem_map_of_mem hlater)
    · intro front replaced middle later back h evidence bound
      exact leases_of_nodup nodup h bound

end

section

variable {sourceId : AuthorityId} {cause : AuthorityTransitionCause}
  {predecessor : Option AuthorityId}

def zeroDigests : HashFunction := ⟨fun _ => List.replicate 32 0, fun _ => List.length_replicate⟩

def sampleHash : Hash32 := hashText zeroDigests []

def otherHash : Hash32 := ⟨String.ofList ('0' :: 'x' :: List.replicate 64 '1'), by decide +kernel⟩

def ownerA : EthereumAddress := ⟨"0xaaaaaaaaaaaaaaaaaaaaaaaaaaaaaaaaaaaaaaaa", by decide⟩

def ownerB : EthereumAddress := ⟨"0xbbbbbbbbbbbbbbbbbbbbbbbbbbbbbbbbbbbbbbbb", by decide⟩

def idA : AuthorityId := ⟨"generation-a", by decide⟩

def idB : AuthorityId := ⟨"generation-b", by decide⟩

def manifest : AuthorityId := ⟨"manifest", by decide⟩

def revision : AuthorityId := ⟨"revision", by decide⟩

def sampleInstant : CanonicalInstant := ⟨"2026-01-01T00:00:00.000Z", by decide +kernel⟩

theorem isAuthorityId_checkpoint : isAuthorityId "checkpoint" = true := by decide

theorem ownerMode_ne : RootKind.jbprojectsOwner ≠ .noCurrentAuthority := nofun

def samplePolicy : FinalityPolicy := ⟨⟨"policy", by decide⟩, ⟨1, by decide⟩, 1⟩

def sampleProject : JuiceboxV6ProjectRef := ⟨⟨1, by decide⟩, ⟨1, by decide⟩, manifest, ownerA⟩

def sampleSource (sourceId : AuthorityId) (cause : AuthorityTransitionCause) :
    AuthorityTransitionSource :=
  ⟨sourceId, manifest, revision, ⟨.jbprojectsOwner, ownerMode_ne⟩, cause, ownerA, sampleHash⟩

def bootstrapId : AuthorityId := ⟨"bootstrap", by decide⟩

def transferId : AuthorityId := ⟨"transfer", by decide⟩

def sampleAnchor (block : Uint256Decimal) : FinalizedBlockAnchor :=
  ⟨⟨1, by decide⟩, block, sampleHash, sampleInstant, [⟨"provider", by decide⟩]⟩

def sampleCursor (block : Uint256Decimal) (sourceId : AuthorityId) : AuthorityTransitionCursor :=
  ⟨manifest, revision, sourceId, block, sampleHash, sampleHash, ⟨0, by decide⟩, ⟨0, by decide⟩,
    ownerA, sampleHash⟩

def sampleGeneration (id : AuthorityId) (block : Uint256Decimal) (owner : EthereumAddress)
    (evidenceDigest : Hash32) (sourceId : AuthorityId) (cause : AuthorityTransitionCause)
    (predecessor : Option AuthorityId) : AuthorityGeneration :=
  ⟨id, sampleProject, block, cause, .active, .jbprojectsOwner, some owner, id, evidenceDigest,
    sampleAnchor block, sampleCursor block sourceId, predecessor⟩

def one : Uint256Decimal := ⟨1, by decide⟩

def two : Uint256Decimal := ⟨2, by decide⟩

def three : Uint256Decimal := ⟨3, by decide⟩

def firstGeneration : AuthorityGeneration :=
  sampleGeneration idA one ownerA sampleHash bootstrapId .bootstrap none

def secondGeneration : AuthorityGeneration :=
  sampleGeneration idB two ownerB otherHash transferId .ordinaryOwnerTransfer (some idA)

def thirdGeneration : AuthorityGeneration :=
  sampleGeneration idA three ownerA sampleHash transferId .ordinaryOwnerTransfer (some idB)

def sampleGenerations : List AuthorityGeneration :=
  [firstGeneration, secondGeneration, thirdGeneration]

def sampleBody : CheckpointBody :=
  ⟨⟨"checkpoint", isAuthorityId_checkpoint⟩, sampleProject, manifest, revision, sampleHash, none,
    none, one, sampleAnchor three, 3, three, idA, three, sampleCursor three transferId, sampleHash⟩

def sampleScan : FinalizedAuthorityTransitionScan := ⟨⟨sampleBody, sampleHash⟩, sampleGenerations⟩

def sampleSources : List AuthorityTransitionSource :=
  [sampleSource bootstrapId .bootstrap, sampleSource transferId .ordinaryOwnerTransfer]

def sampleRequest : ScanRequest where
  value := scanJson sampleScan
  policy := samplePolicy
  expected := ⟨sampleProject, revision, sampleSources, none, none, one, sampleAnchor three,
    sampleInstant⟩

theorem sampleDigest {value : JsonValue} (plain : isPlain value = true) :
    sha256AuthorityDigest zeroDigests value = .ok sampleHash := by
  obtain ⟨text, -, hdigest⟩ := digest_of_isPlain zeroDigests plain
  exact hdigest

theorem sampleAnchored (block : Uint256Decimal) :
    Anchored samplePolicy sampleInstant (sampleAnchor block) :=
  ⟨rfl, ⟨Nat.le_refl 1, by change 1 ≤ 5; omega⟩, List.nodup_singleton _, rfl, Nat.le_refl 1,
    Int.le_refl _⟩

theorem otherHash_ne : otherHash ≠ sampleHash := by
  intro h
  have hchars := congrArg (fun hash : Hash32 => hash.val.toList) h
  unfold otherHash sampleHash hashText at hchars
  dsimp only at hchars
  rw [String.toList_ofList, String.toList_ofList] at hchars
  exact absurd hchars (by decide)

theorem sampleListed : Listed samplePolicy sampleInstant sampleSources 1 3 none
    sampleGenerations :=
  ⟨⟨⟨by decide, rfl, rfl, sampleAnchored one, rfl, rfl, rfl⟩, by decide, by decide, rfl,
      ok_of_isOk (by decide +kernel)⟩,
    ⟨⟨by decide, rfl, rfl, sampleAnchored two, rfl, rfl, rfl⟩, by decide, by decide,
      ok_of_isOk (by decide +kernel), ok_of_isOk (by decide +kernel)⟩,
    ⟨⟨by decide, rfl, rfl, sampleAnchored three, rfl, rfl, rfl⟩, by decide, by decide,
      ok_of_isOk (by decide +kernel), ok_of_isOk (by decide +kernel)⟩,
    trivial⟩

theorem acceptScan_of_ok {H : HashFunction} {scans : Scans} {request : ScanRequest}
    {scan : FinalizedAuthorityTransitionScan}
    (h : parseFinalizedAuthorityTransitionScan H request.value request.policy
      (expectation scans request) = .ok scan) : acceptScan H scans request = scans ++ [scan] := by
  unfold acceptScan
  rw [h]

theorem sampleRequest_accepted : acceptScan zeroDigests [] sampleRequest = [sampleScan] := by
  have hbody : isPlain (checkpointJson sampleBody) = true := isPlain_checkpoint (by decide)
  have acceptable : Acceptable zeroDigests samplePolicy (expectation [] sampleRequest) sampleScan
      thirdGeneration := {
    few := by decide
    project := rfl
    chain := rfl
    manifest := rfl
    adapter := rfl
    sources := sampleDigest rfl
    previous := rfl
    start := rfl
    anchored := sampleAnchored three
    through := rfl
    forward := by decide
    attached := rfl
    listed := sampleListed
    final := rfl
    count := rfl
    cumulative := rfl
    lastId := rfl
    lastSequence := rfl
    lastCursor := rfl
    lastPlace := ⟨rfl, rfl, rfl⟩
    transitions := sampleDigest (by
      simp only [isPlain_record, membersPlain_cons, isPlain_text, isPlain_array,
        entriesPlain_map isPlain_generation, membersPlain_nil, Bool.and_self])
    fresh := (Option.some_ne_none _).symm
    closed := sampleDigest (by
      rw [isPlain_record, membersPlain_cons, membersPlain_cons]
      change (true && (isPlain (checkpointJson sampleBody) && true)) = true
      rw [hbody]
      rfl) }
  exact acceptScan_of_ok (parseScan_scanJson acceptable)

theorem sampleRequest_reported : reported (acceptScans zeroDigests [sampleRequest]) =
    [] ++ firstGeneration :: ([secondGeneration] ++ thirdGeneration :: []) := by
  rw [acceptScans, List.foldl_cons, List.foldl_nil, sampleRequest_accepted]
  rfl

def sampleEvidence : List AuthorityEvidenceReference :=
  [⟨.authorityGeneration, some thirdGeneration.generationId⟩]

/-- The first generation is replaced and its identifiers come back with the third, so that a lease
of the first is accepted with the evidence of the third. -/
theorem returned_generation_revives :
    reported (acceptScans zeroDigests [sampleRequest]) =
        [] ++ firstGeneration :: ([secondGeneration] ++ thirdGeneration :: []) ∧
      firstGeneration.generationId = thirdGeneration.generationId ∧
      firstGeneration.rootEvidenceId = thirdGeneration.rootEvidenceId ∧
      BoundTo thirdGeneration sampleEvidence ∧
      LeaseAccepted firstGeneration.generationId sampleEvidence := by
  refine ⟨sampleRequest_reported, rfl, rfl, ⟨_, List.mem_cons_self, rfl⟩, true, some idA, ?_⟩
  have hid : parseNullable (.text firstGeneration.generationId.val)
      (fun value => parseAuthorityId value "authorityGenerationId") = .ok (some idA) :=
    parseNullable_id (some idA) _
  unfold parseLeaseGeneration
  rw [hid, checked_bind, if_neg (by decide), if_neg, if_neg]
  · rintro ⟨-, item, hitem, -, hother⟩
    obtain rfl := List.mem_singleton.mp hitem
    exact hother rfl
  · rintro ⟨-, item, hitem, -, hother⟩
    obtain rfl := List.mem_singleton.mp hitem
    exact hother rfl

/-- Two places are offered under the ID of the first generation. -/
theorem acceptScans_neverReturns_sample :
    (acceptScans zeroDigests [sampleRequest]).length = [sampleRequest].length ∧
      ¬ NamesPlaces [sampleRequest] := by
  have accepted : (acceptScans zeroDigests [sampleRequest]).length = [sampleRequest].length := by
    rw [acceptScans, List.foldl_cons, List.foldl_nil, sampleRequest_accepted]
    rfl
  refine ⟨accepted, fun names => ?_⟩
  have never := (acceptScans_neverReturns_iff zeroDigests [sampleRequest] accepted).mpr names
  have nodup := never.generations
  rw [sampleRequest_reported] at nodup
  exact absurd nodup (by decide)

end

end JbChat.Authority.GenerationReuse
