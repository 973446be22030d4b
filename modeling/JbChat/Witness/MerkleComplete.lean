/- source: src/production/witness/merkleLog.ts
   digest: Every generated inclusion and consistency proof is accepted. -/

import JbChat.Witness.MerkleConsistency

set_option autoImplicit false

namespace JbChat.Witness.MerkleComplete

open Foundation.HashTrace Foundation.SplitPath MerkleLog MerkleFold MerkleInclusion
open MerkleConsistency

theorem inclusionProof_climbs (H : HashFunction) {D : List Bytes} {i : Nat} {leaf : Bytes}
    (hleaf : D[i]? = some leaf) :
    ∃ path, inclusionProof H D i = some path ∧
      path.length = (descent D.length i).length ∧
      (climbHash H (descent D.length i) path leaf).value = (merkleRoot H D).value := by
  induction hsize : D.length using Nat.strong_induction_on generalizing D i with
  | h n ih =>
    subst hsize
    obtain ⟨hi, -⟩ := List.getElem?_eq_some_iff.mp hleaf
    rw [inclusionProof, if_neg (by omega)]
    by_cases hone : D.length ≤ 1
    · obtain ⟨only, rfl⟩ := List.length_eq_one_iff.mp (show D.length = 1 by omega)
      obtain rfl : i = 0 := by simpa using hi
      obtain rfl : only = leaf := by simpa using hleaf
      refine ⟨[], by simp, by simp [descent_one], ?_⟩
      rw [merkleRoot_singleton]
      simp [descent_one, climbHash]
    · have hlt := halfPower_lt (n := D.length) (by omega)
      have hpos := halfPower_pos D.length
      rw [dif_neg hone, splitPoint_eq_halfPower (by omega), merkleRoot_split H (by omega)]
      by_cases hside : i < halfPower D.length
      · have htake := length_take_halfPower (D := D) (by omega)
        obtain ⟨path, hpath, hlen, hroot⟩ := ih (halfPower D.length) hlt
          (D := D.take (halfPower D.length)) (by rw [List.getElem?_take_of_lt hside, hleaf])
          htake
        refine ⟨path ++ [(merkleRoot H (D.drop (halfPower D.length))).value], ?_, ?_, ?_⟩
        · rw [if_pos (by omega), hpath]
          rfl
        · simp [descent_left (by omega : 2 ≤ D.length) hside, hlen]
        · rw [descent_left (by omega) hside, climbHash_append H _ _ _ _ _ hlen]
          simp only [Traced.bind_value, joinHash, hroot]
      · have hdrop : (D.drop (halfPower D.length)).length = D.length - halfPower D.length :=
          List.length_drop
        have hcast : (i : Int) - (halfPower D.length : Nat) =
            ((i - halfPower D.length : Nat) : Int) := by omega
        obtain ⟨path, hpath, hlen, hroot⟩ := ih (D.length - halfPower D.length) (by omega)
          (D := D.drop (halfPower D.length)) (i := i - halfPower D.length)
          (by rw [List.getElem?_drop, Nat.add_sub_cancel' (by omega), hleaf]) hdrop
        refine ⟨path ++ [(merkleRoot H (D.take (halfPower D.length))).value], ?_, ?_, ?_⟩
        · rw [if_neg (by omega), hcast, hpath]
          rfl
        · simp [descent_right (by omega : 2 ≤ D.length) (Nat.not_lt.mp hside), hlen]
        · rw [descent_right (by omega) (Nat.not_lt.mp hside),
            climbHash_append H _ _ _ _ _ hlen]
          simp only [Traced.bind_value, joinHash, hroot]

theorem left_mem_prefixDescent_iff {n m : Nat} (hm : 0 < m) (hn : m < n) :
    .left ∈ prefixDescent n m ↔ ¬ ∃ j, m = 2 ^ j := by
  obtain ⟨t, odd, ⟨q, rfl⟩, hsplit⟩ := Nat.exists_eq_two_pow_mul_odd (by omega : m ≠ 0)
  have hle : 2 * q ≤ (n - 1) / 2 ^ t := by
    rw [Nat.le_div_iff_mul_le (Nat.pow_pos (by decide)), Nat.mul_comm]
    have : 2 ^ t * (2 * q) ≤ 2 ^ t * (2 * q + 1) := Nat.mul_le_mul_left _ (by omega)
    omega
  rw [pow_two_iff hsplit, hsplit, ← climb_eq_prefixDescent (by omega), left_mem_climb_iff hle]
  omega

/-- What a generated consistency proof consists of: without the complete flag a seed
and one sibling for each step; with it the seed is dropped where it is the old root. -/
structure SubProofFolds (H : HashFunction) (D : List Bytes) (m : Nat) (seed : Bytes)
    (siblings : List Bytes) : Prop where
  openProof : subProof H D m false = seed :: siblings
  completeProof : subProof H D m true =
    if .left ∈ prefixDescent D.length m then seed :: siblings else siblings
  fits : siblings.length = (prefixDescent D.length m).length
  reaches : (folds H D m siblings seed).value =
    ((merkleRoot H (D.take m)).value, (merkleRoot H D).value)
  seed_eq : .left ∉ prefixDescent D.length m → seed = (merkleRoot H (D.take m)).value

theorem subProof_folds (H : HashFunction) {D : List Bytes} {m : Nat} (hm : 0 < m)
    (hn : m ≤ D.length) : ∃ seed siblings, SubProofFolds H D m seed siblings := by
  induction hsize : D.length using Nat.strong_induction_on generalizing D m with
  | h n ih =>
    subst hsize
    by_cases hfull : m = D.length
    · refine ⟨(merkleRoot H D).value, [], ?_, ?_, ?_, ?_, ?_⟩
      · rw [subProof, if_pos hfull]
        rfl
      · rw [subProof, if_pos hfull, hfull, prefixDescent_self]
        rfl
      · rw [hfull, prefixDescent_self]
        rfl
      · rw [folds, hfull, prefixDescent_self, List.take_length]
        rfl
      · rw [hfull, List.take_length]
        exact fun _ => rfl
    · have hlt := halfPower_lt (n := D.length) (by omega)
      have hpos := halfPower_pos D.length
      have hstep : ∀ flag, subProof H D m flag =
          if m ≤ halfPower D.length then
            subProof H (D.take (halfPower D.length)) m flag ++
              [(merkleRoot H (D.drop (halfPower D.length))).value]
          else
            subProof H (D.drop (halfPower D.length)) (m - halfPower D.length) false ++
              [(merkleRoot H (D.take (halfPower D.length))).value] := by
        intro flag
        rw [subProof, if_neg hfull, dif_neg (by omega), splitPoint_eq_halfPower (by omega)]
      by_cases hk : m ≤ halfPower D.length
      · have htake := length_take_halfPower (D := D) (by omega)
        obtain ⟨seed, siblings, inner⟩ := ih (halfPower D.length) hlt
          (D := D.take (halfPower D.length)) hm (by omega) htake
        obtain ⟨hopen, hcomplete, hfits, hreaches, hseed⟩ := inner
        rw [htake] at hcomplete hfits hseed
        rw [take_take_of_le hk] at hreaches hseed
        have hpath := prefixDescent_left hm (by omega : m < D.length) hk
        refine ⟨seed, siblings ++ [(merkleRoot H (D.drop (halfPower D.length))).value],
          ?_, ?_, ?_, ?_, ?_⟩
        · rw [hstep, if_pos hk, hopen]
          rfl
        · rw [hstep, if_pos hk, hcomplete, hpath]
          by_cases hleft : .left ∈ prefixDescent (halfPower D.length) m <;> simp [hleft]
        · simp [hpath, hfits]
        · rw [folds, hpath, climbPair_append_right H _ _ _ _ _ hfits, merkleRoot_split H
            (by omega : 2 ≤ D.length)]
          rw [folds, htake] at hreaches
          simp only [Traced.bind_value, Traced.pure_value, hreaches]
        · rw [hpath]
          intro hleft
          exact hseed (fun h => hleft (List.mem_append_left _ h))
      · have hdrop : (D.drop (halfPower D.length)).length = D.length - halfPower D.length :=
          List.length_drop
        obtain ⟨seed, siblings, inner⟩ : ∃ seed siblings,
            SubProofFolds H (D.drop (halfPower D.length)) (m - halfPower D.length) seed
              siblings :=
          ih (D.length - halfPower D.length) (by omega) (by omega) (by omega) hdrop
        have hpath := prefixDescent_right (by omega : m < D.length) (by omega)
        have hfits := inner.fits
        have hreaches := inner.reaches
        rw [hdrop] at hfits
        refine ⟨seed, siblings ++ [(merkleRoot H (D.take (halfPower D.length))).value],
          ?_, ?_, ?_, ?_, ?_⟩
        · rw [hstep, if_neg hk, inner.openProof]
          rfl
        · rw [hstep, if_neg hk, inner.openProof, hpath]
          simp
        · simp [hpath, hfits]
        · rw [folds, hpath, climbPair_append_left H _ _ _ _ _ hfits, merkleRoot_split H
            (by omega : 2 ≤ D.length), merkleRoot_take_split H (by omega) hn]
          rw [folds, hdrop] at hreaches
          simp only [Traced.bind_value, Traced.pure_value, hreaches]
        · rw [hpath]
          simp

theorem verifyConsistency_subProof (H : HashFunction) {D : List Bytes}
    (hbound : D.length ≤ 2 ^ 31) {m : Nat} (hm : 0 < m) (hn : m < D.length) :
    (verifyConsistency H m (merkleRoot H (D.take m)).value D.length (merkleRoot H D).value
      (subProof H D m true)).value = true := by
  obtain ⟨seed, siblings, generated⟩ := subProof_folds H hm (Nat.le_of_lt hn)
  obtain ⟨-, hproof, hfits, hreaches, hseed⟩ := generated
  have hstart : seedAndPath m (merkleRoot H (D.take m)).value (subProof H D m true) seed
      siblings := by
    by_cases hleft : .left ∈ prefixDescent D.length m
    · rw [if_pos hleft] at hproof
      exact Or.inr ⟨(left_mem_prefixDescent_iff hm hn).mp hleft, hproof⟩
    · rw [if_neg hleft] at hproof
      have hpow : ∃ j, m = 2 ^ j := by
        by_contra hnot
        exact hleft ((left_mem_prefixDescent_iff hm hn).mpr hnot)
      exact Or.inl ⟨hpow, hseed hleft, hproof.symm⟩
  exact (verifyConsistency_folds H D hbound hm hn hstart).1.mpr ⟨hfits, hreaches⟩

/-- Completeness: for every leaf and every prefix of a non-empty tree the generated
proofs exist and are accepted. -/
theorem proofs_complete (H : HashFunction) (D : List Bytes) (hbound : D.length ≤ 2 ^ 31)
    (i : Nat) (hi : i < D.length) (m : Nat) (hm : 1 ≤ m) (hn : m ≤ D.length) :
    (∃ proof, inclusionProof H D i = some proof ∧
      (verifyInclusion H D[i] i D.length proof (merkleRoot H D).value).value = true) ∧
    (∃ proof, consistencyProof H D m = some proof ∧
      (verifyConsistency H m (merkleRoot H (D.take m)).value D.length (merkleRoot H D).value
        proof).value = true) := by
  constructor
  · obtain ⟨path, hpath, hlen, hroot⟩ := inclusionProof_climbs H (List.getElem?_eq_getElem hi)
    refine ⟨path, hpath, ?_⟩
    have hlast : (D.length : Int) - 1 = ((D.length - 1 : Nat) : Int) := by omega
    rw [verifyInclusion, if_neg (by omega), hlast]
    apply (inclusionLoop_spec H (merkleRoot H D).value path (by omega) (by omega) D[i]).1.mpr
    rw [climb_eq_descent hi]
    exact ⟨hlen, hroot⟩
  · rw [consistencyProof, if_neg (by omega)]
    by_cases hfull : m = D.length
    · refine ⟨[], if_pos (by omega), ?_⟩
      rw [verifyConsistency, if_neg (by omega), if_pos (by omega), hfull, List.take_length]
      simp
    · refine ⟨subProof H D m true, by rw [if_neg (by omega)]; rfl, ?_⟩
      exact verifyConsistency_subProof H hbound hm (by omega)

theorem proofs_complete_sample :
    (∃ proof, inclusionProof sampleHash sampleLeaves (2 : Nat) = some proof ∧
      (verifyInclusion sampleHash (sampleLeaf 4) (2 : Nat) sampleLeaves.length proof
        (merkleRoot sampleHash sampleLeaves).value).value = true) ∧
    (∃ proof, consistencyProof sampleHash sampleLeaves (3 : Nat) = some proof ∧
      (verifyConsistency sampleHash (3 : Nat)
        (merkleRoot sampleHash (sampleLeaves.take 3)).value sampleLeaves.length
        (merkleRoot sampleHash sampleLeaves).value proof).value = true) :=
  proofs_complete sampleHash sampleLeaves (by decide) 2 (by decide) 3 (by decide) (by decide)

end JbChat.Witness.MerkleComplete
