/- source: none
   digest: Top-down and bottom-up addresses in trees split at the largest power of two. -/

import Mathlib.Data.Nat.Log
import Mathlib.Tactic

/-!
A tree over `n` leaves is split at the largest power of two strictly below `n`.
The address of a leaf is read from the leaf to the root and lists the side on
which each sibling stands. `descent` reads it off the recursive split, `climb`
off the two index words of a level-by-level walk. They agree on every size, and
the same holds for the address of the last complete subtree of a prefix.
-/

set_option autoImplicit false

namespace JbChat.Foundation.SplitPath

/-- The side of the parent on which the sibling of the walked node stands. -/
inductive Side
  | left | right
  deriving DecidableEq

/-- The largest power of two strictly below `n`, for `2 ≤ n`. -/
def halfPower (n : Nat) : Nat := 2 ^ Nat.log 2 (n - 1)

theorem halfPower_pos (n : Nat) : 0 < halfPower n := Nat.pow_pos (by decide)

theorem halfPower_lt {n : Nat} (hn : 2 ≤ n) : halfPower n < n := by
  have h : 2 ^ Nat.log 2 (n - 1) ≤ n - 1 := Nat.pow_log_le_self 2 (by omega)
  unfold halfPower
  omega

theorem le_two_mul_halfPower (n : Nat) : n ≤ 2 * halfPower n := by
  have h : n - 1 < 2 ^ (Nat.log 2 (n - 1) + 1) := Nat.lt_pow_succ_log_self (by decide) (n - 1)
  rw [Nat.pow_succ] at h
  unfold halfPower
  omega

theorem halfPower_unique {n j : Nat} (lower : 2 ^ j < n) (upper : n ≤ 2 * 2 ^ j) :
    halfPower n = 2 ^ j := by
  unfold halfPower
  congr 1
  apply Nat.log_eq_of_pow_le_of_lt_pow
  · omega
  · rw [Nat.pow_succ]
    omega

theorem halfPower_of_between {n m : Nat} (lower : halfPower n < m) (upper : m ≤ n) :
    halfPower m = halfPower n := by
  have h := le_two_mul_halfPower n
  exact halfPower_unique lower (upper.trans h)

theorem halfPower_half {n : Nat} (hn : 3 ≤ n) :
    ∃ h, halfPower n = 2 * h ∧ halfPower ((n + 1) / 2) = h ∧ 0 < h := by
  have hlt := halfPower_lt (n := n) (by omega)
  have hle := le_two_mul_halfPower n
  cases hj : Nat.log 2 (n - 1) with
  | zero =>
    have hone : halfPower n = 1 := by simp [halfPower, hj]
    omega
  | succ j =>
    have hk : halfPower n = 2 * 2 ^ j := by
      rw [halfPower, hj, Nat.pow_succ, Nat.mul_comm]
    refine ⟨2 ^ j, hk, ?_, Nat.pow_pos (by decide)⟩
    apply halfPower_unique <;> omega

/-- The address of leaf `i` among `n`, read off the recursive split. -/
def descent (n i : Nat) : List Side :=
  if h : n ≤ 1 then []
  else if i < halfPower n then descent (halfPower n) i ++ [.right]
  else descent (n - halfPower n) (i - halfPower n) ++ [.left]
termination_by n
decreasing_by
  · exact halfPower_lt (by omega)
  · have := halfPower_pos n
    omega

theorem descent_one (i : Nat) : descent 1 i = [] := by
  rw [descent]
  simp

theorem descent_left {n i : Nat} (hn : 2 ≤ n) (hi : i < halfPower n) :
    descent n i = descent (halfPower n) i ++ [.right] := by
  rw [descent, dif_neg (by omega), if_pos hi]

theorem descent_right {n i : Nat} (hn : 2 ≤ n) (hi : halfPower n ≤ i) :
    descent n i = descent (n - halfPower n) (i - halfPower n) ++ [.left] := by
  rw [descent, dif_neg (by omega), if_neg (by omega)]

/-- The step taken at one level by a node at index `i` of a level of `n` nodes:
the last node of an odd level is promoted without a sibling. -/
def levelStep (n i : Nat) : List Side :=
  if i % 2 = 1 then [.left] else if i + 1 = n then [] else [.right]

theorem descent_eq_levelStep_append {n i : Nat} (hn : 2 ≤ n) (hi : i < n) :
    descent n i = levelStep n i ++ descent ((n + 1) / 2) (i / 2) := by
  induction n using Nat.strong_induction_on generalizing i with
  | h n ih =>
    by_cases htwo : n = 2
    · subst htwo
      have hk : halfPower 2 = 1 := by simp [halfPower]
      by_cases hz : i = 0
      · subst hz
        rw [descent_left (by omega) (by omega), hk]
        simp [descent_one, levelStep]
      · have hone : i = 1 := by omega
        subst hone
        rw [descent_right (by omega) (by omega), hk]
        simp [descent_one, levelStep]
    · obtain ⟨h, hk, hhalf, hpos⟩ := halfPower_half (n := n) (by omega)
      have hlt := halfPower_lt (n := n) hn
      have hle := le_two_mul_halfPower n
      by_cases hleft : i < halfPower n
      · rw [descent_left hn hleft, ih (halfPower n) hlt (by omega) hleft,
          descent_left (n := (n + 1) / 2) (by omega) (by omega), hhalf, hk]
        have hstep : levelStep (2 * h) i = levelStep n i := by
          unfold levelStep
          split_ifs <;> first | rfl | omega
        rw [hstep, show (2 * h + 1) / 2 = h by omega, List.append_assoc]
      · rw [descent_right hn (by omega)]
        by_cases hlast : n - halfPower n = 1
        · have hlastIndex : i = n - 1 := by omega
          rw [hlast, descent_one, descent_right (n := (n + 1) / 2) (by omega) (by omega), hhalf,
            show (n + 1) / 2 - h = 1 by omega, descent_one]
          have hstep : levelStep n i = [] := by
            unfold levelStep
            rw [if_neg (by omega), if_pos (by omega)]
          rw [hstep]
          rfl
        · rw [ih (n - halfPower n) (by omega) (by omega) (by omega),
            descent_right (n := (n + 1) / 2) (by omega) (by omega), hhalf, hk]
          have hstep : levelStep (n - 2 * h) (i - 2 * h) = levelStep n i := by
            unfold levelStep
            split_ifs <;> first | rfl | omega
          rw [hstep, show (n - 2 * h + 1) / 2 = (n + 1) / 2 - h by omega,
            show (i - 2 * h) / 2 = i / 2 - h by omega, List.append_assoc]

/-- The address read off the index `fn` and the last index `sn` of each level. -/
def climb (fn sn : Nat) : List Side :=
  if h : sn = 0 then []
  else if fn % 2 = 1 then .left :: climb (fn / 2) (sn / 2)
  else if fn = sn then climb (fn / 2) (sn / 2)
  else .right :: climb (fn / 2) (sn / 2)
termination_by sn
decreasing_by all_goals omega

theorem climb_zero (fn : Nat) : climb fn 0 = [] := by
  rw [climb]
  simp

theorem climb_odd {fn sn : Nat} (hsn : sn ≠ 0) (hfn : fn % 2 = 1) :
    climb fn sn = .left :: climb (fn / 2) (sn / 2) := by
  rw [climb, dif_neg hsn, if_pos hfn]

theorem climb_promote {fn : Nat} (hfn : fn % 2 = 0) :
    climb fn fn = climb (fn / 2) (fn / 2) := by
  by_cases hz : fn = 0
  · subst hz
    rfl
  · rw [climb, dif_neg hz, if_neg (by omega), if_pos rfl]

theorem climb_even {fn sn : Nat} (hsn : sn ≠ 0) (hfn : fn % 2 = 0) (hne : fn ≠ sn) :
    climb fn sn = .right :: climb (fn / 2) (sn / 2) := by
  rw [climb, dif_neg hsn, if_neg (by omega), if_neg hne]

theorem climb_eq_descent {n i : Nat} (hi : i < n) : climb i (n - 1) = descent n i := by
  induction n using Nat.strong_induction_on generalizing i with
  | h n ih =>
    by_cases hone : n = 1
    · subst hone
      rw [climb_zero, descent_one]
    · rw [descent_eq_levelStep_append (by omega) hi]
      have hnext : climb (i / 2) ((n - 1) / 2) = descent ((n + 1) / 2) (i / 2) := by
        rw [← ih ((n + 1) / 2) (by omega) (by omega)]
        congr 1
        omega
      rw [← hnext]
      unfold levelStep
      split_ifs with hodd hlast
      · exact climb_odd (by omega) hodd
      · have hi' : i = n - 1 := by omega
        subst hi'
        exact climb_promote (by omega)
      · exact climb_even (by omega) (by omega) (by omega)

/-- The address of the last complete subtree covering the first `m` of `n` leaves. -/
def prefixDescent (n m : Nat) : List Side :=
  if h : n ≤ m ∨ m = 0 then []
  else if m ≤ halfPower n then prefixDescent (halfPower n) m ++ [.right]
  else prefixDescent (n - halfPower n) (m - halfPower n) ++ [.left]
termination_by n
decreasing_by
  · exact halfPower_lt (by omega)
  · have := halfPower_pos n
    omega

theorem prefixDescent_self (n : Nat) : prefixDescent n n = [] := by
  rw [prefixDescent]
  simp

theorem prefixDescent_left {n m : Nat} (hm : 0 < m) (hn : m < n) (hk : m ≤ halfPower n) :
    prefixDescent n m = prefixDescent (halfPower n) m ++ [.right] := by
  rw [prefixDescent, dif_neg (by omega), if_pos hk]

theorem prefixDescent_right {n m : Nat} (hn : m < n) (hk : halfPower n < m) :
    prefixDescent n m = prefixDescent (n - halfPower n) (m - halfPower n) ++ [.left] := by
  rw [prefixDescent, dif_neg (by omega), if_neg (by omega)]

theorem prefixDescent_ne_nil {n m : Nat} (hm : 0 < m) (hn : m < n) : prefixDescent n m ≠ [] := by
  by_cases hk : m ≤ halfPower n
  · simp [prefixDescent_left hm hn hk]
  · simp [prefixDescent_right hn (by omega)]

theorem prefixDescent_half {n h : Nat} (hh : 0 < h) (hn : 2 * h < n) :
    prefixDescent n (2 * h) = prefixDescent ((n + 1) / 2) h := by
  induction n using Nat.strong_induction_on generalizing h with
  | h n ih =>
    obtain ⟨q, hk, hhalf, hpos⟩ := halfPower_half (n := n) (by omega)
    have hlt := halfPower_lt (n := n) (by omega)
    have hle := le_two_mul_halfPower n
    by_cases hleft : 2 * h ≤ halfPower n
    · rw [prefixDescent_left (by omega) hn hleft,
        prefixDescent_left (n := (n + 1) / 2) hh (by omega) (by omega), hhalf, hk]
      congr 1
      by_cases hfull : h = q
      · rw [hfull, prefixDescent_self, prefixDescent_self]
      · rw [ih (2 * q) (by omega) hh (by omega), show (2 * q + 1) / 2 = q by omega]
    · rw [prefixDescent_right hn (by omega),
        prefixDescent_right (n := (n + 1) / 2) (by omega) (by omega), hhalf, hk]
      congr 1
      rw [show 2 * h - 2 * q = 2 * (h - q) by omega,
        ih (n - 2 * q) (by omega) (by omega) (by omega)]
      congr 1
      omega

theorem prefixDescent_odd {n m : Nat} (hodd : m % 2 = 1) (hn : m ≤ n) (hshape : m < n ∨ m = 1) :
    prefixDescent n m = descent n (m - 1) := by
  induction n using Nat.strong_induction_on generalizing m with
  | h n ih =>
    by_cases hone : n = 1
    · subst hone
      rw [show m = 1 by omega, prefixDescent_self, descent_one]
    · have hlt := halfPower_lt (n := n) (by omega)
      have hpos := halfPower_pos n
      by_cases hleft : m ≤ halfPower n
      · rw [prefixDescent_left (by omega) (by omega) hleft,
          descent_left (by omega) (by omega)]
        congr 1
        apply ih (halfPower n) hlt hodd hleft
        by_cases hfull : m = halfPower n
        · right
          unfold halfPower at hfull hpos
          cases hlog : Nat.log 2 (n - 1) with
          | zero => simpa [hlog] using hfull
          | succ j =>
            rw [hlog, Nat.pow_succ] at hfull
            omega
        · left
          omega
      · obtain hthree | htwo : 3 ≤ n ∨ n = 2 := by omega
        · obtain ⟨q, hk, -, -⟩ := halfPower_half hthree
          rw [prefixDescent_right (by omega) (by omega), descent_right (by omega) (by omega),
            show m - 1 - halfPower n = m - halfPower n - 1 by omega]
          congr 1
          exact ih (n - halfPower n) (by omega) (by omega) (by omega) (by omega)
        · subst htwo
          omega

theorem climb_eq_prefixDescent {n m t : Nat} (hn : 2 ^ t * (2 * m + 1) < n) :
    climb (2 * m) ((n - 1) / 2 ^ t) = prefixDescent n (2 ^ t * (2 * m + 1)) := by
  induction t generalizing n with
  | zero =>
    rw [Nat.pow_zero, Nat.one_mul] at hn ⊢
    rw [prefixDescent_odd (by omega) (by omega) (by omega), Nat.div_one,
      ← climb_eq_descent (by omega)]
    congr 1
  | succ t ih =>
    have hpos : 0 < 2 ^ t := Nat.pow_pos (by decide)
    have hsplit : 2 ^ (t + 1) * (2 * m + 1) = 2 * (2 ^ t * (2 * m + 1)) := by ring
    rw [hsplit] at hn ⊢
    have hbase : 0 < 2 ^ t * (2 * m + 1) := Nat.mul_pos hpos (by omega)
    rw [prefixDescent_half hbase hn, ← ih (by omega)]
    congr 1
    rw [Nat.pow_succ, Nat.mul_comm, ← Nat.div_div_eq_div_mul]
    congr 1
    omega

theorem climb_nil_iff {fn sn : Nat} (h : fn ≤ sn) : climb fn sn = [] ↔ sn = 0 := by
  constructor
  · intro hnil
    induction sn using Nat.strong_induction_on generalizing fn with
    | h sn ih =>
      by_contra hsn
      by_cases hodd : fn % 2 = 1
      · simp [climb_odd hsn hodd] at hnil
      · by_cases heq : fn = sn
        · subst heq
          rw [climb_promote (by omega)] at hnil
          have := ih (fn / 2) (by omega) (by omega) hnil
          omega
        · simp [climb_even hsn (by omega) heq] at hnil
  · rintro rfl
    exact climb_zero fn

theorem left_mem_climb_iff {fn sn : Nat} (h : fn ≤ sn) : .left ∈ climb fn sn ↔ 0 < fn := by
  induction sn using Nat.strong_induction_on generalizing fn with
  | h sn ih =>
    by_cases hsn : sn = 0
    · subst hsn
      rw [climb_zero]
      simp only [List.not_mem_nil, false_iff]
      omega
    · by_cases hodd : fn % 2 = 1
      · rw [climb_odd hsn hodd]
        simp only [List.mem_cons, true_or, true_iff]
        omega
      · by_cases heq : fn = sn
        · subst heq
          rw [climb_promote (by omega), ih (fn / 2) (by omega) le_rfl]
          omega
        · rw [climb_even hsn (by omega) heq, List.mem_cons,
            ih (sn / 2) (by omega) (by omega)]
          simp only [reduceCtorEq, false_or]
          omega

end JbChat.Foundation.SplitPath
