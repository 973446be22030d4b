/- source: src/production/witness/merkleLog.ts
   digest: An accepted inclusion proof names the leaf, or two hashed inputs collide. -/

import JbChat.Witness.MerkleFold

set_option autoImplicit false

namespace JbChat.Witness.MerkleInclusion

open Foundation.HashTrace Foundation.SplitPath MerkleLog MerkleFold

theorem exists_concat_of_length {α : Type} {xs : List α} {n : Nat} (h : xs.length = n + 1) :
    ∃ init last, xs = init ++ [last] ∧ init.length = n := by
  rcases List.eq_nil_or_concat xs with rfl | ⟨init, last, rfl⟩
  · simp at h
  · exact ⟨init, last, List.concat_eq_append, by simpa using h⟩

theorem joinHash_length (H : HashFunction) (side : Side) (sibling hash : Bytes) :
    (joinHash H side sibling hash).value.length = 32 := by
  cases side <;> exact H.length_digest _

theorem climbHash_length (H : HashFunction) (sides : List Side) (siblings : List Bytes)
    {hash : Bytes} (hhash : hash.length = 32) :
    (climbHash H sides siblings hash).value.length = 32 := by
  induction sides generalizing siblings hash with
  | nil => exact hhash
  | cons side sides ih =>
    cases siblings with
    | nil => exact hhash
    | cons sibling rest => exact ih rest (joinHash_length H side sibling hash)

theorem node_children_eq {H : HashFunction} {inputs : List Bytes} (safe : ¬ Collision H inputs)
    {a b c d : Bytes} (hab : nodePrefix :: (a ++ b) ∈ inputs)
    (hcd : nodePrefix :: (c ++ d) ∈ inputs)
    (heq : (nodeHash H a b).value = (nodeHash H c d).value)
    (hlen : a.length = c.length ∨ b.length = d.length) : a = c ∧ b = d := by
  have hinput : nodePrefix :: (a ++ b) = nodePrefix :: (c ++ d) :=
    input_eq_of_digest_eq safe hab hcd heq
  have happend : a ++ b = c ++ d := (List.cons.inj hinput).2
  rcases hlen with hac | hbd
  · exact List.append_inj happend hac
  · exact List.append_inj' happend hbd

private theorem not_collision_of_subset {H : HashFunction} {xs ys : List Bytes} (sub : xs ⊆ ys)
    (safe : ¬ Collision H ys) : ¬ Collision H xs :=
  fun h => safe (h.mono sub)

theorem climbHash_sound (H : HashFunction) {D : List Bytes} (sized : LeafSized D) {i : Nat}
    (hi : i < D.length) (siblings : List Bytes)
    (hlen : siblings.length = (descent D.length i).length) {leaf : Bytes}
    (hleaf : leaf.length = 32)
    (safe : ¬ Collision H ((merkleRoot H D).inputs ++
      (climbHash H (descent D.length i) siblings leaf).inputs))
    (heq : (climbHash H (descent D.length i) siblings leaf).value = (merkleRoot H D).value) :
    D[i]? = some leaf := by
  induction hn : D.length using Nat.strong_induction_on generalizing D i siblings with
  | h n ih =>
    by_cases hone : D.length = 1
    · obtain ⟨only, rfl⟩ := List.length_eq_one_iff.mp hone
      have hzero : i = 0 := by simpa using hi
      subst hzero
      rw [List.length_singleton, descent_one, merkleRoot_singleton] at heq
      have hleaf' : leaf = only := by simpa [climbHash] using heq
      simp [hleaf']
    · have htwo : 2 ≤ D.length := by omega
      have hlt := halfPower_lt htwo
      have hpos := halfPower_pos D.length
      rw [merkleRoot_split H htwo] at heq safe
      by_cases hleft : i < halfPower D.length
      · rw [descent_left htwo hleft] at hlen heq safe
        obtain ⟨init, last, rfl, hinit⟩ := exists_concat_of_length
          (by simpa only [List.length_append, List.length_singleton] using hlen)
        rw [climbHash_append H _ _ _ _ _ hinit] at heq safe
        simp only [Traced.bind_value, Traced.bind_inputs, joinHash] at heq safe
        have htake : (D.take (halfPower D.length)).length = halfPower D.length := by
          rw [List.length_take]
          omega
        have hchild := node_children_eq safe (by simp [nodeHash]) (by simp [nodeHash]) heq
          (Or.inl (by
            rw [climbHash_length H _ _ hleaf, merkleRoot_length H (sized.take _)]))
        have hget := ih (halfPower D.length) (by omega) (sized.take _) (i := i)
          (by omega) init (by rw [htake]; exact hinit) (by
            rw [htake]
            exact not_collision_of_subset (by
              intro x hx
              simp only [List.mem_append] at hx ⊢
              tauto) safe) (by rw [htake]; exact hchild.1) htake
        rwa [List.getElem?_take_of_lt hleft] at hget
      · rw [descent_right htwo (by omega)] at hlen heq safe
        obtain ⟨init, last, rfl, hinit⟩ := exists_concat_of_length
          (by simpa only [List.length_append, List.length_singleton] using hlen)
        rw [climbHash_append H _ _ _ _ _ hinit] at heq safe
        simp only [Traced.bind_value, Traced.bind_inputs, joinHash] at heq safe
        have hdrop : (D.drop (halfPower D.length)).length = D.length - halfPower D.length :=
          List.length_drop
        have hchild := node_children_eq safe (by simp [nodeHash]) (by simp [nodeHash]) heq
          (Or.inr (by
            rw [climbHash_length H _ _ hleaf, merkleRoot_length H (sized.drop _)]))
        have hget := ih (D.length - halfPower D.length) (by omega) (sized.drop _)
          (i := i - halfPower D.length) (by omega) init (by rw [hdrop]; exact hinit) (by
            rw [hdrop]
            exact not_collision_of_subset (by
              intro x hx
              simp only [List.mem_append] at hx ⊢
              tauto) safe) (by rw [hdrop]; exact hchild.2) hdrop
        rw [List.getElem?_drop] at hget
        rwa [show halfPower D.length + (i - halfPower D.length) = i by omega] at hget

/-- Soundness of inclusion proofs, for proofs of any length with entries of any
length: an accepted leaf is the leaf at the index, or the hash inputs of the root
and of the verification collide. -/
theorem verifyInclusion_sound (H : HashFunction) (D : List Bytes) (sized : LeafSized D)
    (hpos : 1 ≤ D.length) (hbound : D.length ≤ 2 ^ 31) (index : Int) (leaf : Bytes)
    (hleaf : leaf.length = 32) (proof : List Bytes)
    (accepted : (verifyInclusion H leaf index D.length proof (merkleRoot H D).value).value =
      true) :
    (0 ≤ index ∧ D[index.toNat]? = some leaf) ∨
      Collision H ((merkleRoot H D).inputs ++
        (verifyInclusion H leaf index D.length proof (merkleRoot H D).value).inputs) := by
  by_cases hrange : index < 0 ∨ index ≥ D.length
  · simp [verifyInclusion, hrange] at accepted
  · have hindex : 0 ≤ index ∧ index < D.length := by omega
    obtain ⟨i, rfl⟩ := Int.eq_ofNat_of_zero_le hindex.1
    have hi : i < D.length := by omega
    have hlast : ((D.length : Int) - 1) = ((D.length - 1 : Nat) : Int) := by omega
    simp only [verifyInclusion, if_neg hrange, hlast] at accepted ⊢
    have hle : i ≤ D.length - 1 := by omega
    obtain ⟨hspec, hinputs⟩ := inclusionLoop_spec H (merkleRoot H D).value proof hle
      (by omega) leaf
    obtain ⟨hlen, hvalue⟩ := hspec.mp accepted
    rw [hinputs hlen]
    rw [climb_eq_descent hi] at hlen hvalue ⊢
    by_cases hcoll : Collision H ((merkleRoot H D).inputs ++
        (climbHash H (descent D.length i) proof leaf).inputs)
    · exact Or.inr hcoll
    · refine Or.inl ⟨by omega, ?_⟩
      simpa using climbHash_sound H sized hi proof hlen hleaf hcoll hvalue

def sampleHash : HashFunction where
  digest input := [UInt8.ofNat input.length, input.getD 1 0, input.getD 33 0] ++
    List.replicate 29 0
  length_digest _ := by simp

def sampleLeaf (byte : UInt8) : Bytes := List.replicate 32 byte

theorem verifyInclusion_sound_two_leaves :
    (verifyInclusion sampleHash (sampleLeaf 3) 1 2 [sampleLeaf 2]
      (merkleRoot sampleHash [sampleLeaf 2, sampleLeaf 3]).value).value = true ∧
    ((0 ≤ (1 : Int) ∧ [sampleLeaf 2, sampleLeaf 3][(1 : Int).toNat]? = some (sampleLeaf 3)) ∨
      Collision sampleHash ((merkleRoot sampleHash [sampleLeaf 2, sampleLeaf 3]).inputs ++
        (verifyInclusion sampleHash (sampleLeaf 3) 1 2 [sampleLeaf 2]
          (merkleRoot sampleHash [sampleLeaf 2, sampleLeaf 3]).value).inputs)) := by
  have accepted : (verifyInclusion sampleHash (sampleLeaf 3) 1 2 [sampleLeaf 2]
      (merkleRoot sampleHash [sampleLeaf 2, sampleLeaf 3]).value).value = true := by
    rw [merkleRoot_split sampleHash (by decide)]
    simp [verifyInclusion, inclusionLoop, halfPower, List.take, merkleRoot_singleton, shiftRight,
      Int.bmod]
  exact ⟨accepted, verifyInclusion_sound sampleHash [sampleLeaf 2, sampleLeaf 3]
    (by simp [LeafSized, sampleLeaf]) (by decide) (by decide) 1 (sampleLeaf 3)
    (by simp [sampleLeaf]) [sampleLeaf 2] accepted⟩

end JbChat.Witness.MerkleInclusion
