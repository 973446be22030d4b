/- source: src/production/witness/merkleLog.ts
   digest: When an accepted consistency proof pins the old root, and completeness of both proofs. -/

import JbChat.Witness.MerkleInclusion

set_option autoImplicit false

namespace JbChat.Witness.MerkleConsistency

open Foundation.HashTrace Foundation.SplitPath MerkleLog MerkleFold MerkleInclusion

def consistencyInputs (H : HashFunction) (D : List Bytes) (m : Nat) (verification : List Bytes) :
    List Bytes :=
  (merkleRoot H D).inputs ++ ((merkleRoot H (D.take m)).inputs ++ verification)

theorem climbPair_length (H : HashFunction) (sides : List Side) (siblings : List Bytes)
    (o : Bytes) {w : Bytes} (hlen : siblings.length = sides.length)
    (hsized : w.length = 32 ∨ sides ≠ []) :
    (climbPair H sides siblings o w).value.2.length = 32 := by
  induction sides generalizing siblings o w with
  | nil => simpa [climbPair] using hsized
  | cons side sides ih =>
    cases siblings with
    | nil => cases hlen
    | cons sibling rest =>
      have htail : rest.length = sides.length := by simpa using hlen
      cases side
      · exact ih rest _ htail (Or.inl (H.length_digest _))
      · exact ih rest _ htail (Or.inl (H.length_digest _))

theorem merkleRoot_take_split (H : HashFunction) {D : List Bytes} {m : Nat}
    (hk : halfPower D.length < m) (hm : m ≤ D.length) :
    merkleRoot H (D.take m) = (do
      let left ← merkleRoot H (D.take (halfPower D.length))
      let right ← merkleRoot H ((D.drop (halfPower D.length)).take (m - halfPower D.length))
      nodeHash H left right) := by
  have hpos := halfPower_pos D.length
  have hlen : (D.take m).length = m := by
    rw [List.length_take]
    omega
  rw [merkleRoot_split H (by omega), hlen, halfPower_of_between hk hm, List.take_take,
    List.drop_take, Nat.min_eq_left (by omega)]

theorem take_take_of_le {D : List Bytes} {m k : Nat} (h : m ≤ k) :
    (D.take k).take m = D.take m := by
  rw [List.take_take, Nat.min_eq_left h]

/-- The two folds along the address of the first `m` leaves of `D`. -/
def folds (H : HashFunction) (D : List Bytes) (m : Nat) (siblings : List Bytes) (seed : Bytes) :
    Traced (Bytes × Bytes) :=
  climbPair H (prefixDescent D.length m) siblings seed seed

/-- Both folds start at the seed, the new one reaches the root of `D`, and nothing
hashed on the way collides. -/
structure FoldsTo (H : HashFunction) (D : List Bytes) (m : Nat) (siblings : List Bytes)
    (seed : Bytes) : Prop where
  fits : siblings.length = (prefixDescent D.length m).length
  safe : ¬ Collision H (consistencyInputs H D m (folds H D m siblings seed).inputs)
  reaches : (folds H D m siblings seed).value.2 = (merkleRoot H D).value

theorem length_take_halfPower {D : List Bytes} (hD : 2 ≤ D.length) :
    (D.take (halfPower D.length)).length = halfPower D.length := by
  have := halfPower_lt hD
  rw [List.length_take]
  omega

theorem FoldsTo.peel_left {H : HashFunction} {D : List Bytes} (sized : LeafSized D) {m : Nat}
    {siblings : List Bytes} {seed : Bytes} (h : FoldsTo H D m siblings seed) (hm : 0 < m)
    (hn : m < D.length) (hk : m ≤ halfPower D.length)
    (hseed : m = halfPower D.length → seed.length = 32) :
    ∃ init, FoldsTo H (D.take (halfPower D.length)) m init seed ∧
      (folds H D m siblings seed).value.1 =
        (folds H (D.take (halfPower D.length)) m init seed).value.1 := by
  obtain ⟨hlen, safe, hroot⟩ := h
  have htake := length_take_halfPower (D := D) (by omega)
  rw [prefixDescent_left hm hn hk] at hlen
  obtain ⟨init, last, rfl, hinit⟩ := exists_concat_of_length
    (by simpa only [List.length_append, List.length_singleton] using hlen)
  have hfolds : folds H D m (init ++ [last]) seed = (do
      let hashes ← folds H (D.take (halfPower D.length)) m init seed
      let newHash ← nodeHash H hashes.2 last
      pure (hashes.1, newHash)) := by
    rw [folds, prefixDescent_left hm hn hk, climbPair_append_right H _ _ _ _ _ hinit, folds, htake]
  rw [hfolds, merkleRoot_split H (by omega)] at hroot
  rw [consistencyInputs, hfolds, merkleRoot_split H (by omega)] at safe
  simp only [Traced.bind_value, Traced.bind_inputs, Traced.pure_value, Traced.pure_inputs,
    List.append_nil] at hroot safe
  have hnew : (folds H (D.take (halfPower D.length)) m init seed).value.2.length = 32 := by
    rw [folds, htake]
    apply climbPair_length H _ _ _ hinit
    by_cases hfull : m = halfPower D.length
    · exact Or.inl (hseed hfull)
    · exact Or.inr (prefixDescent_ne_nil hm (by omega))
  have hchild := node_children_eq safe (by simp [nodeHash]) (by simp [nodeHash]) hroot
    (Or.inl (by rw [hnew, merkleRoot_length H (sized.take _)]))
  refine ⟨init, ⟨by rw [htake]; exact hinit, fun hcoll => safe (hcoll.mono ?_), hchild.1⟩, ?_⟩
  · rw [consistencyInputs, take_take_of_le hk]
    intro x hx
    simp only [List.mem_append] at hx ⊢
    tauto
  · rw [hfolds]
    rfl

theorem FoldsTo.peel_right {H : HashFunction} {D : List Bytes} (sized : LeafSized D) {m : Nat}
    {siblings : List Bytes} {seed : Bytes} (h : FoldsTo H D m siblings seed)
    (hn : m < D.length) (hk : halfPower D.length < m) :
    ∃ init, FoldsTo H (D.drop (halfPower D.length)) (m - halfPower D.length) init seed ∧
      ((folds H D m siblings seed).value.1 = (merkleRoot H (D.take m)).value ↔
        (folds H (D.drop (halfPower D.length)) (m - halfPower D.length) init seed).value.1 =
          (merkleRoot H
            ((D.drop (halfPower D.length)).take (m - halfPower D.length))).value) := by
  obtain ⟨hlen, safe, hroot⟩ := h
  have hpos := halfPower_pos D.length
  have hdrop : (D.drop (halfPower D.length)).length = D.length - halfPower D.length :=
    List.length_drop
  rw [prefixDescent_right hn hk] at hlen
  obtain ⟨init, last, rfl, hinit⟩ := exists_concat_of_length
    (by simpa only [List.length_append, List.length_singleton] using hlen)
  have hfolds : folds H D m (init ++ [last]) seed = (do
      let hashes ← folds H (D.drop (halfPower D.length)) (m - halfPower D.length) init seed
      let oldHash ← nodeHash H last hashes.1
      let newHash ← nodeHash H last hashes.2
      pure (oldHash, newHash)) := by
    rw [folds, prefixDescent_right hn hk, climbPair_append_left H _ _ _ _ _ hinit, folds, hdrop]
  rw [hfolds, merkleRoot_split H (by omega)] at hroot
  rw [consistencyInputs, hfolds, merkleRoot_split H (by omega),
    merkleRoot_take_split H hk (by omega)] at safe
  simp only [Traced.bind_value, Traced.bind_inputs, Traced.pure_value, Traced.pure_inputs,
    List.append_nil] at hroot safe
  have hnew : (folds H (D.drop (halfPower D.length)) (m - halfPower D.length) init
      seed).value.2.length = 32 := by
    rw [folds, hdrop]
    exact climbPair_length H _ _ _ hinit (Or.inr (prefixDescent_ne_nil (by omega) (by omega)))
  have hchild := node_children_eq safe (by simp [nodeHash]) (by simp [nodeHash]) hroot
    (Or.inr (by rw [hnew, merkleRoot_length H (sized.drop _)]))
  refine ⟨init, ⟨by rw [hdrop]; exact hinit, fun hcoll => safe (hcoll.mono ?_), hchild.2⟩, ?_⟩
  · intro x hx
    simp only [consistencyInputs, List.mem_append] at hx ⊢
    tauto
  · rw [hfolds, merkleRoot_take_split H hk (by omega)]
    simp only [Traced.bind_value, Traced.pure_value]
    constructor
    · intro hold
      exact (node_children_eq safe (by simp [nodeHash]) (by simp [nodeHash]) hold
        (Or.inl (congrArg List.length hchild.1))).2
    · intro hold
      rw [hold, hchild.1]

theorem FoldsTo.old_root {H : HashFunction} {D : List Bytes} (sized : LeafSized D) {m : Nat}
    {siblings : List Bytes} {seed : Bytes} (h : FoldsTo H D m siblings seed) (hm : 0 < m)
    (hn : m ≤ D.length) (hseed : seed.length = 32) :
    (folds H D m siblings seed).value.1 = (merkleRoot H (D.take m)).value := by
  induction hsize : D.length using Nat.strong_induction_on generalizing D m siblings with
  | h n ih =>
    by_cases hfull : m = D.length
    · have hreach := h.reaches
      rw [folds, hfull, prefixDescent_self] at hreach
      rw [folds, hfull, prefixDescent_self, List.take_length]
      exact hreach
    · have hlt := halfPower_lt (n := D.length) (by omega)
      have hpos := halfPower_pos D.length
      have htake := length_take_halfPower (D := D) (by omega)
      by_cases hk : m ≤ halfPower D.length
      · obtain ⟨init, hinner, hold⟩ := h.peel_left sized hm (by omega) hk (fun _ => hseed)
        rw [hold, ih (halfPower D.length) (by omega) (sized.take _) hinner hm (by omega) htake,
          take_take_of_le hk]
      · obtain ⟨init, hinner, hold⟩ := h.peel_right sized (by omega) (by omega)
        exact hold.mpr (ih (D.length - halfPower D.length) (by omega) (sized.drop _) hinner
          (by omega) (by rw [List.length_drop]; omega) List.length_drop)

theorem FoldsTo.not_old_root {H : HashFunction} {D : List Bytes} (sized : LeafSized D) {m : Nat}
    {siblings : List Bytes} {seed : Bytes} (h : FoldsTo H D m siblings seed) (hm : 0 < m)
    (hn : m ≤ D.length) (hseed : seed.length ≠ 32) :
    (folds H D m siblings seed).value.1 ≠ (merkleRoot H (D.take m)).value := by
  induction hsize : D.length using Nat.strong_induction_on generalizing D m siblings with
  | h n ih =>
    by_cases hfull : m = D.length
    · have hreach := h.reaches
      rw [folds, hfull, prefixDescent_self] at hreach
      have hroot : seed = (merkleRoot H D).value := hreach
      rw [hroot] at hseed
      exact absurd (merkleRoot_length H sized) hseed
    · have hlt := halfPower_lt (n := D.length) (by omega)
      have hpos := halfPower_pos D.length
      have htake := length_take_halfPower (D := D) (by omega)
      by_cases hk : m ≤ halfPower D.length
      · by_cases hedge : m = halfPower D.length
        · -- the old fold is still the seed itself, too long or too short for a root
          have hpath : prefixDescent D.length m = [.right] := by
            rw [prefixDescent_left hm (by omega) hk, ← hedge, prefixDescent_self]
            rfl
          obtain ⟨last, hsib⟩ := List.length_eq_one_iff.mp (h.fits.trans (by rw [hpath]; rfl))
          intro hold
          rw [folds, hpath, hsib] at hold
          have hroot : seed = (merkleRoot H (D.take m)).value := hold
          rw [hroot] at hseed
          exact hseed (merkleRoot_length H (sized.take m))
        · obtain ⟨init, hinner, hold⟩ := h.peel_left sized hm (by omega) hk
            (fun hfull' => absurd hfull' hedge)
          have hne := ih (halfPower D.length) (by omega) (sized.take _) hinner hm (by omega) htake
          rw [take_take_of_le hk] at hne
          rwa [hold]
      · obtain ⟨init, hinner, hold⟩ := h.peel_right sized (by omega) (by omega)
        have hne := ih (D.length - halfPower D.length) (by omega) (sized.drop _) hinner
          (by omega) (by rw [List.length_drop]; omega) List.length_drop
        exact fun heq => hne (hold.mp heq)

theorem skipOdd_spec {m : Nat} (hm : 0 < m) (last : Nat) (hm' : m ≤ 2 ^ 31)
    (hlast : last < 2 ^ 31) :
    ∃ t q : Nat, m = 2 ^ t * (2 * q + 1) ∧
      skipOdd ((m : Int) - 1) last = (((2 * q : Nat) : Int), ((last / 2 ^ t : Nat) : Int)) := by
  induction m using Nat.strong_induction_on generalizing last with
  | h m ih =>
    have hcast : (m : Int) - 1 = ((m - 1 : Nat) : Int) := by omega
    have hword : (((m - 1 : Nat) : Int).tmod 2 = 1) ↔ (m - 1) % 2 = 1 := by
      rw [Int.tmod_eq_emod_of_nonneg (by omega)]
      omega
    rw [skipOdd, hcast]
    by_cases hodd : (m - 1) % 2 = 1
    · rw [dif_pos (hword.mpr hodd), shiftRight_natCast (by omega), shiftRight_natCast hlast]
      obtain ⟨t, q, hsplit, hskip⟩ := ih (m / 2) (by omega) (by omega) (last / 2) (by omega)
        (by omega)
      refine ⟨t + 1, q, ?_, ?_⟩
      · rw [Nat.pow_succ, Nat.mul_comm (2 ^ t) 2, Nat.mul_assoc, ← hsplit]
        omega
      · have hhalf : (((m - 1) / 2 : Nat) : Int) = ((m / 2 : Nat) : Int) - 1 := by omega
        rw [hhalf, hskip, Nat.div_div_eq_div_mul, Nat.pow_succ, Nat.mul_comm (2 ^ t) 2]
    · rw [dif_neg (fun h => hodd (hword.mp h))]
      refine ⟨0, (m - 1) / 2, by rw [Nat.pow_zero]; omega, ?_⟩
      rw [Nat.pow_zero, Nat.div_one]
      congr 2
      omega

theorem pow_two_iff {m t q : Nat} (h : m = 2 ^ t * (2 * q + 1)) :
    (∃ j, m = 2 ^ j) ↔ q = 0 := by
  constructor
  · rintro ⟨j, hj⟩
    have hdvd : 2 * q + 1 ∣ 2 ^ j := ⟨2 ^ t, by rw [← hj, h, Nat.mul_comm]⟩
    obtain ⟨i, -, hi⟩ := (Nat.dvd_prime_pow Nat.prime_two).mp hdvd
    cases i with
    | zero => omega
    | succ i =>
      rw [Nat.pow_succ] at hi
      omega
  · rintro rfl
    exact ⟨t, by simpa using h⟩

/-- The seed of the folds: the old root for a complete old tree, else the first entry. -/
def seedAndPath (m : Nat) (oldRoot : Bytes) (proof : List Bytes) (seed : Bytes)
    (path : List Bytes) : Prop :=
  ((∃ j, m = 2 ^ j) ∧ seed = oldRoot ∧ path = proof) ∨
    ((¬ ∃ j, m = 2 ^ j) ∧ proof = seed :: path)

theorem verifyConsistency_words (H : HashFunction) (D : List Bytes) (hbound : D.length ≤ 2 ^ 31)
    {m : Nat} (hm : 0 < m) (hn : m < D.length) (oldRoot newRoot : Bytes) (proof : List Bytes) :
    ∃ node lastNode : Nat, node ≤ lastNode ∧ lastNode < 2 ^ 31 ∧
      climb node lastNode = prefixDescent D.length m ∧
      (0 < node ↔ ¬ ∃ j, m = 2 ^ j) ∧
      verifyConsistency H m oldRoot D.length newRoot proof =
        if 0 < node then
          match proof with
          | [] => pure false
          | seed :: path => consistencyLoop H oldRoot newRoot path node lastNode seed seed
        else consistencyLoop H oldRoot newRoot proof node lastNode oldRoot oldRoot := by
  obtain ⟨t, q, hsplit, hskip⟩ := skipOdd_spec hm (D.length - 1) (by omega) (by omega)
  have hlast : (D.length : Int) - 1 = ((D.length - 1 : Nat) : Int) := by omega
  refine ⟨2 * q, (D.length - 1) / 2 ^ t, ?_, ?_, ?_, ?_, ?_⟩
  · rw [Nat.le_div_iff_mul_le (Nat.pow_pos (by decide)), Nat.mul_comm]
    have : 2 ^ t * (2 * q) ≤ 2 ^ t * (2 * q + 1) := Nat.mul_le_mul_left _ (by omega)
    omega
  · have := Nat.div_le_self (D.length - 1) (2 ^ t)
    omega
  · rw [hsplit]
    exact climb_eq_prefixDescent (hsplit ▸ hn)
  · rw [pow_two_iff hsplit]
    omega
  · unfold verifyConsistency
    rw [if_neg (by omega), if_neg (by omega), hlast, hskip]
    by_cases hq : 0 < 2 * q
    · have hword : ((2 * q : Nat) : Int) > 0 := by omega
      cases proof <;> simp only [hq, hword, if_true]
    · have hword : ¬ ((2 * q : Nat) : Int) > 0 := by omega
      simp only [hq, hword, if_false]

theorem verifyConsistency_folds (H : HashFunction) (D : List Bytes) (hbound : D.length ≤ 2 ^ 31)
    {m : Nat} (hm : 0 < m) (hn : m < D.length) {oldRoot newRoot : Bytes} {proof : List Bytes}
    {seed : Bytes} {path : List Bytes} (hseed : seedAndPath m oldRoot proof seed path) :
    ((verifyConsistency H m oldRoot D.length newRoot proof).value = true ↔
      path.length = (prefixDescent D.length m).length ∧
        (folds H D m path seed).value = (oldRoot, newRoot)) ∧
    (path.length = (prefixDescent D.length m).length →
      (verifyConsistency H m oldRoot D.length newRoot proof).inputs =
        (folds H D m path seed).inputs) := by
  obtain ⟨node, lastNode, hle, hword, hclimb, hpow, hbody⟩ :=
    verifyConsistency_words H D hbound hm hn oldRoot newRoot proof
  have hspec := consistencyLoop_spec H oldRoot newRoot path hle hword seed seed
  rw [hclimb] at hspec
  rw [hbody]
  rcases hseed with ⟨hcomplete, rfl, rfl⟩ | ⟨hcomplete, rfl⟩
  · rw [if_neg (fun h => hpow.mp h hcomplete)]
    exact hspec
  · rw [if_pos (hpow.mpr hcomplete)]
    exact hspec

theorem exists_seedAndPath (H : HashFunction) (D : List Bytes) (hbound : D.length ≤ 2 ^ 31)
    {m : Nat} (hm : 0 < m) (hn : m < D.length) {oldRoot newRoot : Bytes} {proof : List Bytes}
    (accepted : (verifyConsistency H m oldRoot D.length newRoot proof).value = true) :
    ∃ seed path, seedAndPath m oldRoot proof seed path := by
  by_cases hcomplete : ∃ j, m = 2 ^ j
  · exact ⟨oldRoot, proof, Or.inl ⟨hcomplete, rfl, rfl⟩⟩
  · cases proof with
    | nil =>
      obtain ⟨node, lastNode, -, -, -, hpow, hbody⟩ :=
        verifyConsistency_words H D hbound hm hn oldRoot newRoot []
      rw [hbody, if_pos (hpow.mpr hcomplete)] at accepted
      exact absurd accepted Bool.false_ne_true
    | cons seed path => exact ⟨seed, path, Or.inr ⟨hcomplete, rfl⟩⟩

/-- The sizes and entries for which the seed is known to be 32 bytes long: equal
sizes, a complete old tree (its seed is the old root), or a first entry of 32 bytes. -/
def SeedSized (m n : Nat) (proof : List Bytes) : Prop :=
  m = n ∨ (∃ j, m = 2 ^ j) ∨ ∃ seed path, proof = seed :: path ∧ seed.length = 32

/-- An accepted consistency proof that hashes no collision pins the old root exactly
when its seed is 32 bytes long. -/
theorem verifyConsistency_sound_iff (H : HashFunction) (D : List Bytes) (sized : LeafSized D)
    (hbound : D.length ≤ 2 ^ 31) (m : Nat) (hm : 1 ≤ m) (hn : m ≤ D.length) (oldRoot : Bytes)
    (hold : oldRoot.length = 32) (proof : List Bytes)
    (accepted : (verifyConsistency H m oldRoot D.length (merkleRoot H D).value proof).value = true)
    (safe : ¬ Collision H (consistencyInputs H D m
      (verifyConsistency H m oldRoot D.length (merkleRoot H D).value proof).inputs)) :
    oldRoot = (merkleRoot H (D.take m)).value ↔ SeedSized m D.length proof := by
  by_cases hfull : m = D.length
  · have hroots : oldRoot = (merkleRoot H D).value := by
      unfold verifyConsistency at accepted
      rw [if_neg (by omega), if_pos (by rw [hfull])] at accepted
      exact (of_decide_eq_true accepted).2
    rw [hfull, List.take_length]
    exact ⟨fun _ => Or.inl rfl, fun _ => hroots⟩
  · obtain ⟨seed, path, hseed⟩ := exists_seedAndPath H D hbound hm (by omega) accepted
    obtain ⟨haccept, hinputs⟩ := verifyConsistency_folds H D hbound hm (by omega) hseed
    obtain ⟨hlen, hvalue⟩ := haccept.mp accepted
    rw [hinputs hlen] at safe
    have hfolds : FoldsTo H D m path seed := ⟨hlen, safe, by rw [hvalue]⟩
    have hseedSized : SeedSized m D.length proof ↔ seed.length = 32 := by
      rcases hseed with ⟨hpow, rfl, rfl⟩ | ⟨hpow, rfl⟩
      · simp [SeedSized, hpow, hold]
      · simp [SeedSized, hpow, hfull]
    have hright : oldRoot = (folds H D m path seed).value.1 := by rw [hvalue]
    rw [hseedSized, hright]
    constructor
    · intro heq
      by_contra hne
      exact hfolds.not_old_root sized hm hn hne heq
    · exact fun h32 => hfolds.old_root sized hm hn h32

def sampleLeaves : List Bytes := [sampleLeaf 2, sampleLeaf 3, sampleLeaf 4, sampleLeaf 5]

def sampleLeft : Bytes := sampleHash.digest (nodePrefix :: (sampleLeaf 2 ++ sampleLeaf 3))

/-- The third leaf with one byte of the fourth, then the rest of the fourth. -/
def shiftedProof : List Bytes :=
  [sampleLeaf 4 ++ [5], List.replicate 31 5, sampleLeft]

/-- The root that the shifted proof folds to. -/
def shiftedRoot : Bytes :=
  sampleHash.digest (nodePrefix :: (sampleLeft ++ (sampleLeaf 4 ++ [5])))

private theorem halfPower_four : halfPower 4 = 2 := halfPower_unique (j := 1) (by decide) (by decide)

private theorem halfPower_three : halfPower 3 = 2 := halfPower_unique (j := 1) (by decide) (by decide)

private theorem halfPower_two : halfPower 2 = 1 := halfPower_unique (j := 0) (by decide) (by decide)

private theorem merkleRoot_pair (H : HashFunction) (a b : Bytes) :
    merkleRoot H [a, b] = nodeHash H a b := by
  rw [merkleRoot_split H (by simp)]
  simp [halfPower_two, merkleRoot_singleton]

private theorem merkleRoot_triple (H : HashFunction) (a b c : Bytes) :
    merkleRoot H [a, b, c] = (do
      let left ← nodeHash H a b
      nodeHash H left c) := by
  rw [merkleRoot_split H (by simp)]
  simp [halfPower_three, merkleRoot_singleton, merkleRoot_pair]

private theorem merkleRoot_quadruple (H : HashFunction) (a b c d : Bytes) :
    merkleRoot H [a, b, c, d] = (do
      let left ← nodeHash H a b
      let right ← nodeHash H c d
      nodeHash H left right) := by
  rw [merkleRoot_split H (by simp)]
  simp [halfPower_four, merkleRoot_pair]

private theorem verifyConsistency_four (H : HashFunction) (oldRoot newRoot seed sibling left : Bytes) :
    verifyConsistency H 3 oldRoot 4 newRoot [seed, sibling, left] = (do
      let inner ← nodeHash H seed sibling
      let oldHash ← nodeHash H left seed
      let newHash ← nodeHash H left inner
      pure (decide (oldHash = oldRoot ∧ newHash = newRoot))) := by
  simp [verifyConsistency, skipOdd, consistencyLoop, shiftRight, Int.bmod]

/-- The shifted proof is accepted for a root that is not the root of the prefix. -/
theorem verifyConsistency_not_sound :
    ¬ ∀ (H : HashFunction) (D : List Bytes), LeafSized D → D.length ≤ 2 ^ 31 →
      ∀ m : Nat, 1 ≤ m → m ≤ D.length → ∀ oldRoot : Bytes, oldRoot.length = 32 →
      ∀ proof : List Bytes,
        (verifyConsistency H m oldRoot D.length (merkleRoot H D).value proof).value = true →
        oldRoot = (merkleRoot H (D.take m)).value ∨
          Collision H (consistencyInputs H D m
            (verifyConsistency H m oldRoot D.length (merkleRoot H D).value proof).inputs) := by
  intro sound
  have hverify := verifyConsistency_four sampleHash shiftedRoot
    (merkleRoot sampleHash sampleLeaves).value (sampleLeaf 4 ++ [5]) (List.replicate 31 5)
    sampleLeft
  have hclaim := sound sampleHash sampleLeaves (by simp [LeafSized, sampleLeaves, sampleLeaf])
    (by decide) 3 (by decide) (by decide) shiftedRoot (by decide) shiftedProof
  have hlength : ((sampleLeaves.length : Nat) : Int) = 4 := rfl
  have hthree : ((3 : Nat) : Int) = 3 := rfl
  rw [hlength, hthree] at hclaim
  rw [shiftedProof, consistencyInputs, hverify] at hclaim
  simp only [sampleLeaves, List.take, merkleRoot_triple, merkleRoot_quadruple] at hclaim
  revert hclaim
  decide

theorem verifyConsistency_sound_iff_shifted :
    shiftedRoot = (merkleRoot sampleHash (sampleLeaves.take 3)).value ↔
      SeedSized 3 sampleLeaves.length shiftedProof := by
  have hverify := verifyConsistency_four sampleHash shiftedRoot
    (merkleRoot sampleHash sampleLeaves).value (sampleLeaf 4 ++ [5]) (List.replicate 31 5)
    sampleLeft
  have hlength : ((sampleLeaves.length : Nat) : Int) = 4 := rfl
  have hthree : ((3 : Nat) : Int) = 3 := rfl
  apply verifyConsistency_sound_iff sampleHash sampleLeaves
    (by simp [LeafSized, sampleLeaves, sampleLeaf]) (by decide) 3 (by decide) (by decide)
    shiftedRoot (by decide)
  · rw [hlength, hthree, shiftedProof, hverify]
    simp only [sampleLeaves, merkleRoot_quadruple]
    decide
  · rw [hlength, hthree, shiftedProof, consistencyInputs, hverify]
    simp only [sampleLeaves, List.take, merkleRoot_triple, merkleRoot_quadruple]
    decide

end JbChat.Witness.MerkleConsistency
