/- source: src/production/witness/merkleLog.ts
   digest: The RFC 6962 tree, its proof generators and its iterative verifiers. -/

import JbChat.Foundation.HashTrace
import JbChat.Foundation.SplitPath

/-!
Numbers of the source are integers here. `>>` converts its operand to a signed
32-bit word first, so the verifiers halve their index words only below `2 ^ 31`.
Buffers are byte strings. Every hash evaluated is recorded, and a function of the
source is the `value` of its recording.
-/

set_option autoImplicit false

namespace JbChat.Witness.MerkleLog

open Foundation.HashTrace

def leafPrefix : UInt8 := 0

def nodePrefix : UInt8 := 1

def leafHash (H : HashFunction) (payload : Bytes) : Traced Bytes :=
  Traced.hash H (leafPrefix :: payload)

def nodeHash (H : HashFunction) (left right : Bytes) : Traced Bytes :=
  Traced.hash H (nodePrefix :: (left ++ right))

/-- The doubling loop of `splitPoint`, entered with a positive `k`. -/
def splitLoop (n k : Nat) : Nat :=
  if h : 0 < k ∧ k * 2 < n then splitLoop n (k * 2) else k
termination_by n - k

/-- Largest power of two strictly less than `n`, for `2 ≤ n`. -/
def splitPoint (n : Nat) : Nat := splitLoop n 1

private theorem splitLoop_bounds (n k : Nat) (hk : 0 < k) (hn : k < n) :
    splitLoop n k < n ∧ 0 < splitLoop n k := by
  induction k using splitLoop.induct n with
  | case1 k h ih =>
    rw [splitLoop, dif_pos h]
    exact ih (by omega) h.2
  | case2 k h =>
    rw [splitLoop, dif_neg h]
    exact ⟨hn, hk⟩

theorem splitPoint_lt {n : Nat} (hn : 2 ≤ n) : splitPoint n < n :=
  (splitLoop_bounds n 1 (by omega) (by omega)).1

theorem splitPoint_pos {n : Nat} (hn : 2 ≤ n) : 0 < splitPoint n :=
  (splitLoop_bounds n 1 (by omega) (by omega)).2

def merkleRoot (H : HashFunction) (leafHashes : List Bytes) : Traced Bytes :=
  match leafHashes with
  | [] => Traced.hash H []
  | [leaf] => pure leaf
  | first :: second :: rest => do
    let k := splitPoint (first :: second :: rest).length
    let left ← merkleRoot H ((first :: second :: rest).take k)
    let right ← merkleRoot H ((first :: second :: rest).drop k)
    nodeHash H left right
termination_by leafHashes.length
decreasing_by
  · have := splitPoint_lt (n := (first :: second :: rest).length) (by simp)
    simpa using this
  · have := splitPoint_pos (n := (first :: second :: rest).length) (by simp)
    simp only [List.length_drop, List.length_cons] at this ⊢
    omega

/-- RFC 6962 PATH(m, D[n]); `none` is the RangeError. -/
def inclusionProof (H : HashFunction) (leafHashes : List Bytes) (index : Int) :
    Option (List Bytes) :=
  if index < 0 ∨ index ≥ leafHashes.length then none
  else if _hone : leafHashes.length ≤ 1 then some []
  else
    let k := splitPoint leafHashes.length
    if index < k then do
      let path ← inclusionProof H (leafHashes.take k) index
      return path ++ [(merkleRoot H (leafHashes.drop k)).value]
    else do
      let path ← inclusionProof H (leafHashes.drop k) (index - k)
      return path ++ [(merkleRoot H (leafHashes.take k)).value]
termination_by leafHashes.length
decreasing_by
  · have := splitPoint_lt (n := leafHashes.length) (by omega)
    simp only [List.length_take]
    omega
  · have := splitPoint_pos (n := leafHashes.length) (by omega)
    simp only [List.length_drop]
    omega

/-- `x >> 1`: the operand becomes a signed 32-bit word, then halves downwards. -/
def shiftRight (x : Int) : Int := Int.bmod x (2 ^ 32) / 2

theorem shiftRight_natAbs_lt {x : Int} (h : x.tmod 2 = 1 ∨ (x.tmod 2 = 0 ∧ x ≠ 0)) :
    (shiftRight x).natAbs < x.natAbs := by
  have hlower : -(2 ^ 31 : Int) ≤ Int.bmod x (2 ^ 32) := by
    have := Int.le_bmod (x := x) (m := 2 ^ 32) (by decide)
    simpa using this
  have hupper : Int.bmod x (2 ^ 32) < 2 ^ 31 := by
    have := Int.bmod_lt (x := x) (m := 2 ^ 32) (by decide)
    simpa using this
  have hcong : (2 ^ 32 : Int) ∣ x - Int.bmod x (2 ^ 32) := by
    have := Int.dvd_self_sub_bmod (x := x) (m := 2 ^ 32)
    simpa using this
  obtain ⟨c, hc⟩ := hcong
  have hmod := Int.mul_tdiv_add_tmod x 2
  have hsign : 0 ≤ x ∨ x.tmod 2 ≤ 0 := by
    rcases lt_or_ge x 0 with hneg | hpos
    · have hflip : 0 ≤ (-x).tmod 2 := Int.tmod_nonneg 2 (by omega)
      rw [Int.neg_tmod] at hflip
      omega
    · exact Or.inl hpos
  unfold shiftRight
  omega

/-- `while (fn % 2 === 0 && fn !== 0)` of both verifiers. -/
def skipEven (fn sn : Int) : Int × Int :=
  if _h : fn.tmod 2 = 0 ∧ fn ≠ 0 then skipEven (shiftRight fn) (shiftRight sn) else (fn, sn)
termination_by fn.natAbs
decreasing_by exact shiftRight_natAbs_lt (Or.inr _h)

/-- `while (node % 2 === 1)` at the start of the consistency verifier. -/
def skipOdd (node lastNode : Int) : Int × Int :=
  if _h : node.tmod 2 = 1 then skipOdd (shiftRight node) (shiftRight lastNode)
  else (node, lastNode)
termination_by node.natAbs
decreasing_by exact shiftRight_natAbs_lt (Or.inl _h)

def inclusionLoop (H : HashFunction) (expectedRoot : Bytes) :
    List Bytes → Int → Int → Bytes → Traced Bool
  | [], _, sn, hash => pure (decide (sn = 0 ∧ hash = expectedRoot))
  | sibling :: rest, fn, sn, hash =>
    if sn = 0 then pure false
    else if fn.tmod 2 = 1 ∨ fn = sn then do
      let hash ← nodeHash H sibling hash
      let words := if fn.tmod 2 = 0 then skipEven fn sn else (fn, sn)
      inclusionLoop H expectedRoot rest (shiftRight words.1) (shiftRight words.2) hash
    else do
      let hash ← nodeHash H hash sibling
      inclusionLoop H expectedRoot rest (shiftRight fn) (shiftRight sn) hash

def verifyInclusion (H : HashFunction) (leaf : Bytes) (index treeSize : Int)
    (proof : List Bytes) (expectedRoot : Bytes) : Traced Bool :=
  if index < 0 ∨ index ≥ treeSize then pure false
  else inclusionLoop H expectedRoot proof index (treeSize - 1) leaf

/-- RFC 6962 SUBPROOF; entered with `1 ≤ m ≤ n`. -/
def subProof (H : HashFunction) (leafHashes : List Bytes) (m : Nat) (complete : Bool) :
    List Bytes :=
  if m = leafHashes.length then
    if complete then [] else [(merkleRoot H leafHashes).value]
  else if _hone : leafHashes.length ≤ 1 then []
  else
    let k := splitPoint leafHashes.length
    if m ≤ k then
      subProof H (leafHashes.take k) m complete ++ [(merkleRoot H (leafHashes.drop k)).value]
    else
      subProof H (leafHashes.drop k) (m - k) false ++
        [(merkleRoot H (leafHashes.take k)).value]
termination_by leafHashes.length
decreasing_by
  · have := splitPoint_lt (n := leafHashes.length) (by omega)
    simp only [List.length_take]
    omega
  · have := splitPoint_pos (n := leafHashes.length) (by omega)
    simp only [List.length_drop]
    omega

/-- RFC 6962 PROOF(m, D[n]) between sizes `oldSize` and `n`; `none` is the RangeError. -/
def consistencyProof (H : HashFunction) (leafHashes : List Bytes) (oldSize : Int) :
    Option (List Bytes) :=
  if oldSize < 1 ∨ oldSize > leafHashes.length then none
  else if oldSize = leafHashes.length then some []
  else some (subProof H leafHashes oldSize.toNat true)

def consistencyLoop (H : HashFunction) (oldRoot newRoot : Bytes) :
    List Bytes → Int → Int → Bytes → Bytes → Traced Bool
  | [], _, lastNode, oldHash, newHash =>
    pure (decide (lastNode = 0 ∧ oldHash = oldRoot ∧ newHash = newRoot))
  | sibling :: rest, node, lastNode, oldHash, newHash =>
    if lastNode = 0 then pure false
    else if node.tmod 2 = 1 ∨ node = lastNode then do
      let oldHash ← nodeHash H sibling oldHash
      let newHash ← nodeHash H sibling newHash
      let words := if node.tmod 2 = 0 then skipEven node lastNode else (node, lastNode)
      consistencyLoop H oldRoot newRoot rest (shiftRight words.1) (shiftRight words.2)
        oldHash newHash
    else do
      let newHash ← nodeHash H newHash sibling
      consistencyLoop H oldRoot newRoot rest (shiftRight node) (shiftRight lastNode)
        oldHash newHash

def verifyConsistency (H : HashFunction) (oldSize : Int) (oldRoot : Bytes) (newSize : Int)
    (newRoot : Bytes) (proof : List Bytes) : Traced Bool :=
  if oldSize < 1 ∨ oldSize > newSize then pure false
  else if oldSize = newSize then pure (decide (proof.length = 0 ∧ oldRoot = newRoot))
  else
    let words := skipOdd (oldSize - 1) (newSize - 1)
    if words.1 > 0 then
      match proof with
      | [] => pure false
      | seed :: path => consistencyLoop H oldRoot newRoot path words.1 words.2 seed seed
    else consistencyLoop H oldRoot newRoot proof words.1 words.2 oldRoot oldRoot

end JbChat.Witness.MerkleLog
