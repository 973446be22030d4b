/- source: src/production/witness/merkleLog.ts
   digest: The root as a recursive split, and the verifier loops as folds along an address. -/

import JbChat.Witness.MerkleLog

set_option autoImplicit false

namespace JbChat.Witness.MerkleFold

open Foundation.HashTrace Foundation.SplitPath MerkleLog

private theorem splitLoop_eq_halfPower {n : Nat} (j : Nat) (hn : 2 ^ j < n) :
    splitLoop n (2 ^ j) = halfPower n := by
  induction hd : n - 2 ^ j using Nat.strong_induction_on generalizing j with
  | h d ih =>
    have hpos : 0 < 2 ^ j := Nat.pow_pos (by decide)
    rw [splitLoop]
    by_cases hlt : 2 ^ j * 2 < n
    · rw [dif_pos ⟨hpos, hlt⟩, ← Nat.pow_succ]
      rw [← Nat.pow_succ] at hlt
      have hgrow : 2 ^ (j + 1) = 2 ^ j * 2 := Nat.pow_succ 2 j
      exact ih (n - 2 ^ (j + 1)) (by omega) (j + 1) hlt rfl
    · rw [dif_neg (by omega)]
      exact (halfPower_unique hn (by omega)).symm

theorem splitPoint_eq_halfPower {n : Nat} (hn : 2 ≤ n) : splitPoint n = halfPower n :=
  splitLoop_eq_halfPower 0 (by rw [Nat.pow_zero]; omega)

theorem merkleRoot_nil (H : HashFunction) : merkleRoot H [] = Traced.hash H [] := by
  rw [merkleRoot]

theorem merkleRoot_singleton (H : HashFunction) (leaf : Bytes) :
    merkleRoot H [leaf] = pure leaf := by
  rw [merkleRoot]

theorem merkleRoot_split (H : HashFunction) {D : List Bytes} (hD : 2 ≤ D.length) :
    merkleRoot H D = (do
      let left ← merkleRoot H (D.take (halfPower D.length))
      let right ← merkleRoot H (D.drop (halfPower D.length))
      nodeHash H left right) := by
  match D, hD with
  | first :: second :: rest, _ =>
    rw [merkleRoot, splitPoint_eq_halfPower (by simp)]

/-- Every leaf hash is 32 bytes long. -/
def LeafSized (D : List Bytes) : Prop := ∀ leaf ∈ D, leaf.length = 32

theorem LeafSized.take {D : List Bytes} (h : LeafSized D) (k : Nat) : LeafSized (D.take k) :=
  fun leaf hleaf => h leaf (List.mem_of_mem_take hleaf)

theorem LeafSized.drop {D : List Bytes} (h : LeafSized D) (k : Nat) : LeafSized (D.drop k) :=
  fun leaf hleaf => h leaf (List.mem_of_mem_drop hleaf)

theorem merkleRoot_length (H : HashFunction) {D : List Bytes} (hD : LeafSized D) :
    (merkleRoot H D).value.length = 32 := by
  match D, hD with
  | [], _ =>
    rw [merkleRoot_nil]
    exact H.length_digest _
  | [leaf], hD =>
    rw [merkleRoot_singleton]
    exact hD leaf (by simp)
  | first :: second :: rest, _ =>
    rw [merkleRoot_split H (by simp)]
    exact H.length_digest _

/-- The parent of `hash` and a sibling standing on the given side. -/
def joinHash (H : HashFunction) : Side → Bytes → Bytes → Traced Bytes
  | .left, sibling, hash => nodeHash H sibling hash
  | .right, sibling, hash => nodeHash H hash sibling

/-- Fold a running hash along an address with one sibling for each step. -/
def climbHash (H : HashFunction) : List Side → List Bytes → Bytes → Traced Bytes
  | side :: sides, sibling :: rest, hash => do
    let hash ← joinHash H side sibling hash
    climbHash H sides rest hash
  | _, _, hash => pure hash

def climbPair (H : HashFunction) : List Side → List Bytes → Bytes → Bytes → Traced (Bytes × Bytes)
  | .left :: sides, sibling :: rest, oldHash, newHash => do
    let oldHash ← nodeHash H sibling oldHash
    let newHash ← nodeHash H sibling newHash
    climbPair H sides rest oldHash newHash
  | .right :: sides, sibling :: rest, oldHash, newHash => do
    let newHash ← nodeHash H newHash sibling
    climbPair H sides rest oldHash newHash
  | _, _, oldHash, newHash => pure (oldHash, newHash)

theorem climbHash_append (H : HashFunction) (sides : List Side) (side : Side)
    (siblings : List Bytes) (sibling hash : Bytes) (hlen : siblings.length = sides.length) :
    climbHash H (sides ++ [side]) (siblings ++ [sibling]) hash = (do
      let hash ← climbHash H sides siblings hash
      joinHash H side sibling hash) := by
  induction sides generalizing siblings hash with
  | nil =>
    obtain rfl := List.length_eq_zero_iff.mp hlen
    simp [climbHash]
  | cons s sides ih =>
    match siblings, hlen with
    | x :: rest, hlen =>
      have htail : rest.length = sides.length := by simpa using hlen
      simp only [List.cons_append, climbHash, bind_assoc]
      congr 1
      funext hash
      exact ih rest hash htail

theorem climbPair_append_left (H : HashFunction) (sides : List Side)
    (siblings : List Bytes) (sibling o w : Bytes) (hlen : siblings.length = sides.length) :
    climbPair H (sides ++ [.left]) (siblings ++ [sibling]) o w = (do
      let hashes ← climbPair H sides siblings o w
      let oldHash ← nodeHash H sibling hashes.1
      let newHash ← nodeHash H sibling hashes.2
      pure (oldHash, newHash)) := by
  induction sides generalizing siblings o w with
  | nil =>
    obtain rfl := List.length_eq_zero_iff.mp hlen
    simp [climbPair]
  | cons s sides ih =>
    match siblings, hlen with
    | x :: rest, hlen =>
      have htail : rest.length = sides.length := by simpa using hlen
      cases s <;> simp only [List.cons_append, climbPair, bind_assoc, ih rest _ _ htail]

theorem climbPair_append_right (H : HashFunction) (sides : List Side)
    (siblings : List Bytes) (sibling o w : Bytes) (hlen : siblings.length = sides.length) :
    climbPair H (sides ++ [.right]) (siblings ++ [sibling]) o w = (do
      let hashes ← climbPair H sides siblings o w
      let newHash ← nodeHash H hashes.2 sibling
      pure (hashes.1, newHash)) := by
  induction sides generalizing siblings o w with
  | nil =>
    obtain rfl := List.length_eq_zero_iff.mp hlen
    simp [climbPair]
  | cons s sides ih =>
    match siblings, hlen with
    | x :: rest, hlen =>
      have htail : rest.length = sides.length := by simpa using hlen
      cases s <;> simp only [List.cons_append, climbPair, bind_assoc, ih rest _ _ htail]

theorem shiftRight_natCast {x : Nat} (hx : x < 2 ^ 31) :
    shiftRight (x : Int) = ((x / 2 : Nat) : Int) := by
  have hword : Int.bmod (x : Int) (2 ^ 32) = x := by
    apply Int.bmod_eq_of_le <;> omega
  rw [shiftRight, hword]
  rfl

private theorem tmod_two_natCast (x : Nat) : ((x : Int).tmod 2) = ((x % 2 : Nat) : Int) := by
  rw [Int.tmod_eq_emod_of_nonneg (by omega)]
  rfl

private theorem odd_word {x : Nat} : ((x : Int).tmod 2 = 1) ↔ x % 2 = 1 := by
  rw [tmod_two_natCast]
  omega

private theorem even_word {x : Nat} : ((x : Int).tmod 2 = 0) ↔ x % 2 = 0 := by
  rw [tmod_two_natCast]
  omega

theorem skipEven_right_edge {fn : Nat} (hpos : fn ≠ 0) (hfn : fn < 2 ^ 31) :
    ∃ o : Nat, o % 2 = 1 ∧ o ≤ fn ∧ skipEven fn fn = ((o : Int), (o : Int)) ∧
      climb fn fn = climb o o := by
  induction fn using Nat.strong_induction_on with
  | h fn ih =>
    rw [skipEven]
    by_cases heven : fn % 2 = 0
    · rw [dif_pos ⟨even_word.mpr heven, by exact_mod_cast hpos⟩, shiftRight_natCast hfn,
        climb_promote heven]
      obtain ⟨o, hodd, hle, hskip, hclimb⟩ := ih (fn / 2) (by omega) (by omega) (by omega)
      exact ⟨o, hodd, by omega, hskip, hclimb⟩
    · rw [dif_neg (fun h => heven (even_word.mp h.1))]
      exact ⟨fn, by omega, le_rfl, rfl, rfl⟩

theorem climb_step {fn sn : Nat} (hle : fn ≤ sn) (hsn : sn < 2 ^ 31) (hne : sn ≠ 0) :
    (∃ fn' sn' : Nat, fn' ≤ sn' ∧ sn' < 2 ^ 31 ∧
      ((fn : Int).tmod 2 = 1 ∨ (fn : Int) = sn) ∧
      climb fn sn = .left :: climb fn' sn' ∧
      (let words := if (fn : Int).tmod 2 = 0 then skipEven fn sn else ((fn : Int), (sn : Int))
       shiftRight words.1 = fn' ∧ shiftRight words.2 = sn')) ∨
    (¬ ((fn : Int).tmod 2 = 1 ∨ (fn : Int) = sn) ∧
      climb fn sn = .right :: climb (fn / 2) (sn / 2) ∧
      shiftRight fn = ((fn / 2 : Nat) : Int) ∧ shiftRight sn = ((sn / 2 : Nat) : Int)) := by
  by_cases hodd : fn % 2 = 1
  · left
    refine ⟨fn / 2, sn / 2, by omega, by omega, Or.inl (odd_word.mpr hodd),
      climb_odd hne hodd, ?_⟩
    rw [if_neg (fun h => by have := even_word.mp h; omega)]
    exact ⟨shiftRight_natCast (by omega), shiftRight_natCast hsn⟩
  · by_cases hedge : fn = sn
    · left
      subst hedge
      obtain ⟨o, hoodd, hole, hskip, hclimb⟩ := skipEven_right_edge hne hsn
      refine ⟨o / 2, o / 2, le_rfl, by omega, Or.inr rfl, ?_, ?_⟩
      · rw [hclimb, climb_odd (by omega) hoodd]
      · rw [if_pos (even_word.mpr (by omega)), hskip]
        exact ⟨shiftRight_natCast (by omega), shiftRight_natCast (by omega)⟩
    · right
      refine ⟨?_, climb_even hne (by omega) hedge, shiftRight_natCast (by omega),
        shiftRight_natCast hsn⟩
      rintro (h | h)
      · exact hodd (odd_word.mp h)
      · exact hedge (by exact_mod_cast h)

theorem inclusionLoop_spec (H : HashFunction) (root : Bytes) (proof : List Bytes) {fn sn : Nat}
    (hle : fn ≤ sn) (hsn : sn < 2 ^ 31) (hash : Bytes) :
    ((inclusionLoop H root proof fn sn hash).value = true ↔
      proof.length = (climb fn sn).length ∧
        (climbHash H (climb fn sn) proof hash).value = root) ∧
    (proof.length = (climb fn sn).length →
      (inclusionLoop H root proof fn sn hash).inputs =
        (climbHash H (climb fn sn) proof hash).inputs) := by
  induction proof generalizing fn sn hash with
  | nil =>
    have hnil := climb_nil_iff hle
    constructor
    · simp only [inclusionLoop, Traced.pure_value, decide_eq_true_eq, Int.natCast_eq_zero,
        List.length_nil, eq_comm (a := 0), List.length_eq_zero_iff, hnil]
      constructor
      · rintro ⟨hz, rfl⟩
        refine ⟨hz, ?_⟩
        rw [hz, climb_zero]
        rfl
      · rintro ⟨hz, hroot⟩
        rw [hz, climb_zero] at hroot
        exact ⟨hz, hroot⟩
    · intro hlen
      have hempty : climb fn sn = [] := List.length_eq_zero_iff.mp hlen.symm
      rw [hempty]
      rfl
  | cons sibling rest ih =>
    by_cases hz : sn = 0
    · subst hz
      simp [inclusionLoop, climb_zero]
    · have hz' : (sn : Int) ≠ 0 := by exact_mod_cast hz
      rw [inclusionLoop, if_neg hz']
      obtain ⟨fn', sn', hle', hsn', hcond, hclimb, hwords⟩ | ⟨hcond, hclimb, hfn, hsn'⟩ :=
        climb_step hle hsn hz
      · rw [if_pos hcond, hclimb]
        simp only [Traced.bind_value, Traced.bind_inputs, hwords.1, hwords.2, climbHash, joinHash,
          List.length_cons, Nat.add_right_cancel_iff]
        refine ⟨(ih hle' hsn' _).1, fun hlen => ?_⟩
        rw [(ih hle' hsn' _).2 hlen]
      · rw [if_neg hcond, hclimb]
        simp only [Traced.bind_value, Traced.bind_inputs, hfn, hsn', climbHash, joinHash,
          List.length_cons, Nat.add_right_cancel_iff]
        refine ⟨(ih (by omega) (by omega) _).1, fun hlen => ?_⟩
        rw [(ih (by omega) (by omega) _).2 hlen]

theorem consistencyLoop_spec (H : HashFunction) (oldRoot newRoot : Bytes) (proof : List Bytes)
    {fn sn : Nat} (hle : fn ≤ sn) (hsn : sn < 2 ^ 31) (o w : Bytes) :
    ((consistencyLoop H oldRoot newRoot proof fn sn o w).value = true ↔
      proof.length = (climb fn sn).length ∧
        (climbPair H (climb fn sn) proof o w).value = (oldRoot, newRoot)) ∧
    (proof.length = (climb fn sn).length →
      (consistencyLoop H oldRoot newRoot proof fn sn o w).inputs =
        (climbPair H (climb fn sn) proof o w).inputs) := by
  induction proof generalizing fn sn o w with
  | nil =>
    have hnil := climb_nil_iff hle
    constructor
    · simp only [consistencyLoop, Traced.pure_value, decide_eq_true_eq, Int.natCast_eq_zero,
        List.length_nil, eq_comm (a := 0), List.length_eq_zero_iff, hnil]
      constructor
      · rintro ⟨hz, rfl, rfl⟩
        refine ⟨hz, ?_⟩
        rw [hz, climb_zero]
        rfl
      · rintro ⟨hz, hroots⟩
        rw [hz, climb_zero] at hroots
        exact ⟨hz, Prod.mk.inj hroots⟩
    · intro hlen
      have hempty : climb fn sn = [] := List.length_eq_zero_iff.mp hlen.symm
      rw [hempty]
      rfl
  | cons sibling rest ih =>
    by_cases hz : sn = 0
    · subst hz
      simp [consistencyLoop, climb_zero]
    · have hz' : (sn : Int) ≠ 0 := by exact_mod_cast hz
      rw [consistencyLoop, if_neg hz']
      obtain ⟨fn', sn', hle', hsn', hcond, hclimb, hwords⟩ | ⟨hcond, hclimb, hfn, hsn'⟩ :=
        climb_step hle hsn hz
      · rw [if_pos hcond, hclimb]
        simp only [Traced.bind_value, Traced.bind_inputs, hwords.1, hwords.2, climbPair,
          List.length_cons, Nat.add_right_cancel_iff]
        refine ⟨(ih hle' hsn' _ _).1, fun hlen => ?_⟩
        rw [(ih hle' hsn' _ _).2 hlen]
      · rw [if_neg hcond, hclimb]
        simp only [Traced.bind_value, Traced.bind_inputs, hfn, hsn', climbPair,
          List.length_cons, Nat.add_right_cancel_iff]
        refine ⟨(ih (by omega) (by omega) _ _).1, fun hlen => ?_⟩
        rw [(ih (by omega) (by omega) _ _).2 hlen]

end JbChat.Witness.MerkleFold
