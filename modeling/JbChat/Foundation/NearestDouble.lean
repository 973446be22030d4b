/- source: none
   digest: Natural numbers as floating-point numbers of 53 significant bits. -/

import Mathlib.Data.Nat.Size
import Mathlib.Tactic

/-!
A natural number is rounded to the nearest one with a bounded number of significant bits,
ties to the even neighbour, and is infinite from `2 ^ 1024` on. What is at least a power of
two stays so, and what has few enough bits stays as it is; bounds that are checked on rounded
numbers hold of the numbers themselves for this reason.
-/

set_option autoImplicit false

namespace JbChat.Foundation.NearestDouble

section

/-- The distance between the neighbours of a number with so many significant bits. -/
def spacing (bits n : Nat) : Nat := 2 ^ (n.size - bits)

/-- Round to the nearest number with so many significant bits, ties to even. -/
def roundTo (bits n : Nat) : Nat :=
  let unit := spacing bits n
  let below := n / unit
  if 2 * (n % unit) < unit ∨ (2 * (n % unit) = unit ∧ below % 2 = 0) then below * unit
  else (below + 1) * unit

variable {bits n k : Nat}

theorem roundTo_of_lt (h : n < 2 ^ bits) : roundTo bits n = n := by
  have hunit : spacing bits n = 1 := by
    have hsize : n.size ≤ bits := Nat.size_le.mpr h
    rw [spacing, Nat.sub_eq_zero_of_le hsize, pow_zero]
  unfold roundTo
  simp only [hunit, Nat.div_one, Nat.mod_one, Nat.mul_one]
  rw [if_pos (Or.inl (by decide))]

theorem floor_le_roundTo (bits n : Nat) : n / spacing bits n * spacing bits n ≤ roundTo bits n := by
  unfold roundTo
  dsimp only
  split_ifs
  · exact Nat.le_refl _
  · exact Nat.mul_le_mul_right _ (Nat.le_succ _)

theorem le_roundTo (positive : 0 < bits) (h : 2 ^ k ≤ n) : 2 ^ k ≤ roundTo bits n := by
  refine Nat.le_trans ?_ (floor_le_roundTo bits n)
  have hsize : k < n.size := Nat.lt_size.mpr h
  have hpositive : 0 < n := Nat.lt_of_lt_of_le (Nat.pow_pos (by decide)) h
  -- The highest power below the number is a multiple of the spacing.
  have hhigh : 2 ^ (n.size - 1) ≤ n := Nat.lt_size.mp (by omega)
  have hdvd : spacing bits n ∣ 2 ^ (n.size - 1) := Nat.pow_dvd_pow 2 (by omega)
  calc 2 ^ k ≤ 2 ^ (n.size - 1) := Nat.pow_le_pow_right (by decide) (by omega)
    _ = 2 ^ (n.size - 1) / spacing bits n * spacing bits n := (Nat.div_mul_cancel hdvd).symm
    _ ≤ n / spacing bits n * spacing bits n :=
      Nat.mul_le_mul_right _ (Nat.div_le_div_right hhigh)

theorem spacing_pos (bits n : Nat) : 0 < spacing bits n := Nat.pow_pos (by decide)

theorem roundTo_le_succ (bits n : Nat) :
    roundTo bits n ≤ (n / spacing bits n + 1) * spacing bits n := by
  unfold roundTo
  dsimp only
  split_ifs
  · exact Nat.mul_le_mul_right _ (Nat.le_succ _)
  · exact Nat.le_refl _

theorem roundTo_of_dvd (h : spacing bits n ∣ n) : roundTo bits n = n := by
  have hpos := spacing_pos bits n
  unfold roundTo
  dsimp only
  rw [Nat.mod_eq_zero_of_dvd h, if_pos (Or.inl (by omega)), Nat.div_mul_cancel h]

theorem roundTo_mul_pow (h : n < 2 ^ bits) (k : Nat) : roundTo bits (n * 2 ^ k) = n * 2 ^ k := by
  have hsize : (n * 2 ^ k).size ≤ bits + k := by
    rw [Nat.size_le, pow_add]
    exact Nat.mul_lt_mul_of_pos_right h (Nat.pow_pos (by decide))
  exact roundTo_of_dvd (Dvd.dvd.mul_left (Nat.pow_dvd_pow 2 (by omega)) n)

theorem pow_dvd_roundTo (h : 2 ^ (bits + k) ≤ n) : 2 ^ k ∣ roundTo bits n := by
  have hsize : bits + k < n.size := Nat.lt_size.mpr h
  have hunit : 2 ^ k ∣ spacing bits n := Nat.pow_dvd_pow 2 (by omega)
  unfold roundTo
  dsimp only
  split_ifs <;> exact hunit.mul_left _

theorem roundTo_le_pow (h : n < 2 ^ k) : roundTo bits n ≤ 2 ^ k := by
  have hsize : n.size ≤ k := Nat.size_le.mpr h
  by_cases hbits : n < 2 ^ bits
  · rw [roundTo_of_lt hbits]
    exact h.le
  · have hlong : bits ≤ n.size := (Nat.lt_size.mpr (Nat.not_lt.mp hbits)).le
    have hfits : n / spacing bits n < 2 ^ bits := by
      refine Nat.div_lt_of_lt_mul ?_
      rw [spacing, ← pow_add, Nat.sub_add_cancel hlong]
      exact Nat.lt_size_self n
    calc roundTo bits n ≤ (n / spacing bits n + 1) * spacing bits n := roundTo_le_succ bits n
      _ ≤ 2 ^ bits * spacing bits n := Nat.mul_le_mul_right _ hfits
      _ = 2 ^ n.size := by rw [spacing, ← pow_add, Nat.add_sub_cancel' hlong]
      _ ≤ 2 ^ k := Nat.pow_le_pow_right (by decide) hsize

theorem roundTo_mono {m : Nat} (positive : 0 < bits) (h : n ≤ m) :
    roundTo bits n ≤ roundTo bits m := by
  rcases (Nat.size_le_size h).lt_or_eq with hsize | hsize
  · exact (roundTo_le_pow (Nat.lt_size_self n)).trans
      (le_roundTo positive (Nat.lt_size.mp hsize))
  -- With as many bits the two numbers have the same neighbours.
  have hunit : spacing bits n = spacing bits m := by rw [spacing, spacing, hsize]
  have hpos := spacing_pos bits m
  rcases (Nat.div_le_div_right (c := spacing bits m) h).lt_or_eq with hdiv | hdiv
  · have hover := roundTo_le_succ bits n
    rw [hunit] at hover
    exact hover.trans ((Nat.mul_le_mul_right _ hdiv).trans (floor_le_roundTo bits m))
  · have hmod : n % spacing bits m ≤ m % spacing bits m := by
      have hn := Nat.div_add_mod n (spacing bits m)
      have hm := Nat.div_add_mod m (spacing bits m)
      rw [hdiv] at hn
      omega
    unfold roundTo
    rw [hunit]
    dsimp only
    rw [hdiv]
    split_ifs with hlow hhigh hhigh
    · exact Nat.le_refl _
    · exact Nat.mul_le_mul_right _ (Nat.le_succ _)
    · omega
    · exact Nat.le_refl _

end

section

/-- The values that `Number` takes on natural numbers. -/
inductive Double where
  | finite (value : Nat)
  | infinity
deriving DecidableEq

def significantBits : Nat := 53

def exponentBound : Nat := 1024

/-- `Number` of a natural number. -/
def ofNat (n : Nat) : Double :=
  let rounded := roundTo significantBits n
  if rounded < 2 ^ exponentBound then .finite rounded else .infinity

variable {n value : Nat}

theorem ofNat_of_lt (h : n < 2 ^ significantBits) : ofNat n = .finite n := by
  have hbits : significantBits ≤ exponentBound := by decide
  have hbound : n < 2 ^ exponentBound :=
    Nat.lt_of_lt_of_le h (Nat.pow_le_pow_right (by decide) hbits)
  unfold ofNat
  simp only [roundTo_of_lt h, if_pos hbound]

theorem eq_of_ofNat_lt (h : ofNat n = .finite value) (small : value < 2 ^ significantBits) :
    n = value := by
  by_cases hsmall : n < 2 ^ significantBits
  · rw [ofNat_of_lt hsmall] at h
    exact Double.finite.inj h
  · have hlarge : 2 ^ significantBits ≤ roundTo significantBits n :=
      le_roundTo (by decide) (Nat.not_lt.mp hsmall)
    unfold ofNat at h
    dsimp only at h
    split_ifs at h
    have hvalue := Double.finite.inj h
    omega

/-- The sum of two numbers, rounded. -/
def Double.add : Double → Double → Double
  | .finite a, .finite b => ofNat (a + b)
  | _, _ => .infinity

/-- The comparison with an integer; no number exceeds infinity. -/
def Double.exceeds : Double → Nat → Bool
  | .finite value, n => decide (n < value)
  | .infinity, _ => true

/-- A remainder of zero; infinity has none. -/
def Double.isMultiple : Double → Nat → Bool
  | .finite value, n => decide (value % n = 0)
  | .infinity, _ => false

/-- Where the number lies among so many positions. -/
def Double.position : Double → Nat → Nat
  | .finite value, n => min value n
  | .infinity, n => n

theorem ofNat_not_exceeds {bound : Nat} (small : bound < 2 ^ significantBits) :
    (ofNat n).exceeds bound = false ↔ n ≤ bound := by
  constructor
  · intro h
    cases hn : ofNat n with
    | infinity =>
      rw [hn] at h
      cases h
    | finite value =>
      rw [hn] at h
      have hvalue : value ≤ bound := Nat.not_lt.mp (of_decide_eq_false h)
      rw [eq_of_ofNat_lt hn (hvalue.trans_lt small)]
      exact hvalue
  · intro h
    rw [ofNat_of_lt (h.trans_lt small)]
    exact decide_eq_false (Nat.not_lt.mpr h)

theorem add_of_lt {a b : Nat} (h : a + b < 2 ^ significantBits) :
    (Double.finite a).add (.finite b) = .finite (a + b) := by
  rw [Double.add, ofNat_of_lt h]

theorem add_not_exceeds {first second : Double} {bound : Nat}
    (small : bound < 2 ^ significantBits) : (first.add second).exceeds bound = false ↔
      ∃ a b, first = .finite a ∧ second = .finite b ∧ a + b ≤ bound := by
  cases first with
  | infinity => exact ⟨fun h => (by cases h), fun ⟨_, _, h, _⟩ => (by cases h)⟩
  | finite a =>
    cases second with
    | infinity => exact ⟨fun h => (by cases h), fun ⟨_, _, _, h, _⟩ => (by cases h)⟩
    | finite b =>
      rw [Double.add, ofNat_not_exceeds small]
      refine ⟨fun h => ⟨a, b, rfl, rfl, h⟩, ?_⟩
      rintro ⟨_, _, ⟨⟩, ⟨⟩, h⟩
      exact h

theorem ofNat_add_not_exceeds {a b bound : Nat} (small : bound < 2 ^ significantBits) :
    ((ofNat a).add (ofNat b)).exceeds bound = false ↔ a + b ≤ bound := by
  rw [add_not_exceeds small]
  constructor
  · rintro ⟨x, y, hx, hy, h⟩
    rw [eq_of_ofNat_lt hx (by omega), eq_of_ofNat_lt hy (by omega)]
    exact h
  · intro h
    exact ⟨a, b, ofNat_of_lt (by omega), ofNat_of_lt (by omega), h⟩

end

end JbChat.Foundation.NearestDouble
