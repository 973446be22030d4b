/- source: none
   digest: Floating-point numbers, counted in the smallest positive one. -/

import JbChat.Foundation.NearestDouble

/-!
Sums and differences of finite numbers are whole numbers of the smallest positive one before they
are rounded. Rounding is monotone and keeps the integers of 53 bits, so a bound by such an integer
holds of the rounded number as it holds of the exact one.
-/

set_option autoImplicit false

namespace JbChat.Foundation.Numbers

open NearestDouble

/-- A number: so many times `2 ^ -1074`, or an infinity, or none. -/
inductive Number where
  | finite (units : Int)
  | infinite (negative : Bool)
  | nan
  deriving DecidableEq

/-- One, in units of the smallest positive number. -/
@[irreducible] def scale : Int := 2 ^ 1074

def maxExact : Int := 2 ^ 53

def roundInt (n : Int) : Int :=
  if 0 ≤ n then roundTo significantBits n.natAbs else -roundTo significantBits n.natAbs

/-- The units that no finite number reaches. -/
@[irreducible] def range : Nat := 2 ^ (exponentBound + 1074)

/-- The nearest number to so many units. -/
def ofUnits (units : Int) : Number :=
  if (roundInt units).natAbs < range then .finite (roundInt units)
  else .infinite (decide (roundInt units < 0))

def ofInt (n : Int) : Number := ofUnits (n * scale)

namespace Number

def add : Number → Number → Number
  | .nan, _ | _, .nan => .nan
  | .finite a, .finite b => ofUnits (a + b)
  | .infinite negative, .infinite other => if negative = other then .infinite negative else .nan
  | .infinite negative, .finite _ | .finite _, .infinite negative => .infinite negative

def neg : Number → Number
  | .finite units => .finite (-units)
  | .infinite negative => .infinite !negative
  | .nan => .nan

def sub (a b : Number) : Number := a.add b.neg

/-- The order of the numbers; none of its comparisons holds of `nan`. -/
def le : Number → Number → Bool
  | .nan, _ | _, .nan => false
  | .finite a, .finite b => decide (a ≤ b)
  | .infinite negative, other => negative || decide (other = .infinite false)
  | .finite _, .infinite negative => !negative

def lt (a b : Number) : Bool := a.le b && !b.le a

end Number

section

variable {a b n : Int} {k : Nat}

theorem roundInt_mono (h : a ≤ b) : roundInt a ≤ roundInt b := by
  have hpos : 0 < significantBits := by decide
  unfold roundInt
  split_ifs with ha hb hb
  · exact Int.ofNat_le.mpr (roundTo_mono hpos (by omega))
  · omega
  · omega
  · exact Int.neg_le_neg (Int.ofNat_le.mpr (roundTo_mono hpos (by omega)))

theorem roundTo_exact {n : Nat} (h : n ≤ 2 ^ significantBits) (k : Nat) :
    roundTo significantBits (n * 2 ^ k) = n * 2 ^ k := by
  rcases h.lt_or_eq with hlt | rfl
  · exact roundTo_mul_pow hlt k
  · have hsmall : 1 < 2 ^ significantBits := by decide
    have hone := roundTo_mul_pow hsmall (significantBits + k)
    rwa [one_mul, pow_add] at hone

theorem roundInt_exact (low : -maxExact ≤ n) (high : n ≤ maxExact) :
    roundInt (n * 2 ^ k) = n * 2 ^ k := by
  have hbound : n.natAbs ≤ 2 ^ significantBits := by
    unfold maxExact at low high
    unfold significantBits
    omega
  have habs : (n * 2 ^ k).natAbs = n.natAbs * 2 ^ k := by
    rw [Int.natAbs_mul, Int.natAbs_pow]
    rfl
  have hsign : 0 ≤ n * 2 ^ k ↔ 0 ≤ n := mul_nonneg_iff_of_pos_right (by positivity)
  unfold roundInt
  rw [habs, roundTo_exact hbound, Nat.cast_mul, Nat.cast_pow]
  split_ifs with h
  · rw [Int.natAbs_of_nonneg (hsign.mp h)]
    rfl
  · rw [Int.ofNat_natAbs_of_nonpos (le_of_not_ge fun hn => h (hsign.mpr hn)), neg_mul, neg_neg]
    rfl

end

theorem scale_eq : scale = 2 ^ 1074 := by
  unfold scale
  rfl

theorem scale_pos : 0 < scale := by
  rw [scale_eq]
  exact pow_pos (by decide) _

section

variable {a b c : Number}

theorem ofUnits_mono {m n : Int} (h : m ≤ n) : (ofUnits m).le (ofUnits n) = true := by
  have hround := roundInt_mono h
  unfold ofUnits
  split_ifs with hm hn hn
  · exact decide_eq_true hround
  · exact Bool.not_eq_true' _ ▸ decide_eq_false (by omega)
  · exact Bool.or_eq_true_iff.mpr (Or.inl (decide_eq_true (by omega)))
  · by_cases hneg : roundInt m < 0
    · exact Bool.or_eq_true_iff.mpr (Or.inl (decide_eq_true hneg))
    · refine Bool.or_eq_true_iff.mpr (Or.inr (decide_eq_true ?_))
      exact congrArg Number.infinite (decide_eq_false (by omega))

theorem ofInt_mono {m n : Int} (h : m ≤ n) : (ofInt m).le (ofInt n) = true :=
  ofUnits_mono (mul_le_mul_of_nonneg_right h scale_pos.le)

theorem lt_of_ofInt {m n : Int} (h : (ofInt m).le (ofInt n) = false) : n < m := by
  by_contra hle
  rw [ofInt_mono (not_lt.mp hle)] at h
  cases h

theorem Number.lt_of_le_of_lt (hle : a.le b = true) (hlt : b.lt c = true) : a.lt c = true := by
  unfold Number.lt at *
  cases a <;> cases b <;> cases c <;> simp_all only [Number.le] <;> grind

/-- What exceeds the difference from a later number exceeds that from an earlier one. -/
theorem Number.sub_lt_of_le {width : Number} (hle : a.le b = true) (hlt : (b.sub width).lt c = true) :
    (a.sub width).lt c = true := by
  cases width with
  | nan => cases b <;> cases hlt
  | infinite negative =>
    unfold Number.lt at *
    cases a <;> cases b <;> cases c <;> grind [Number.sub, Number.neg, Number.add, Number.le]
  | finite units =>
    cases a with
    | nan => cases hle
    | infinite negative =>
      unfold Number.lt at *
      cases b <;> cases c <;> grind [Number.sub, Number.neg, Number.add, Number.le]
    | finite first =>
      cases b with
      | nan => cases hle
      | infinite negative =>
        unfold Number.lt at *
        cases c <;> grind [Number.sub, Number.neg, Number.add, Number.le]
      | finite second =>
        have hle' : first ≤ second := of_decide_eq_true hle
        exact Number.lt_of_le_of_lt (ofUnits_mono (by omega)) hlt

end

section

variable {m n r : Int} {k : Nat} {x y : Number}

/-- What is at most `2 ^ 53` times a small power of two is in the range of the finite numbers. -/
theorem lt_range (small : k ≤ 2000) (low : -maxExact * 2 ^ k ≤ r) (high : r ≤ maxExact * 2 ^ k) :
    r.natAbs < range := by
  have habs : r.natAbs ≤ 2 ^ (53 + k) := by
    have hpow : maxExact * 2 ^ k = ((2 ^ (53 + k) : Nat) : Int) := by
      rw [pow_add]
      rfl
    rw [neg_mul, hpow] at low
    rw [hpow] at high
    omega
  have hexponent : 53 + k < exponentBound + 1074 := by
    unfold exponentBound
    omega
  unfold range
  exact lt_of_le_of_lt habs (Nat.pow_lt_pow_right (by decide) hexponent)

theorem ofUnits_finite (small : k ≤ 2000) (low : -maxExact * 2 ^ k ≤ r)
    (high : r ≤ maxExact * 2 ^ k) : ofUnits r = .finite (roundInt r) := by
  have hlow := roundInt_mono low
  have hhigh := roundInt_mono high
  rw [roundInt_exact (le_refl _) (by decide)] at hlow
  rw [roundInt_exact (by decide) (le_refl _)] at hhigh
  exact if_pos (lt_range small hlow hhigh)

theorem roundInt_scale (low : -maxExact ≤ n) (high : n ≤ maxExact) :
    roundInt (n * scale) = n * scale := by
  rw [scale_eq]
  exact roundInt_exact low high

theorem ofUnits_scale (low : -maxExact * scale ≤ r) (high : r ≤ maxExact * scale) :
    ofUnits r = .finite (roundInt r) := by
  rw [scale_eq] at low high
  exact ofUnits_finite (k := 1074) (by decide) low high

theorem ofInt_exact (low : -maxExact ≤ n) (high : n ≤ maxExact) :
    ofInt n = .finite (n * scale) := by
  have hpos := scale_pos.le
  unfold ofInt
  rw [ofUnits_scale (mul_le_mul_of_nonneg_right low hpos) (mul_le_mul_of_nonneg_right high hpos),
    roundInt_scale low high]

theorem finite_add (m n : Int) :
    (Number.finite (m * scale)).add (.finite (n * scale)) = ofInt (m + n) := by
  unfold ofInt
  rw [add_mul]
  rfl

theorem ofInt_succ (low : -maxExact ≤ n) (high : n ≤ maxExact) :
    (ofInt n).add (ofInt 1) = ofInt (n + 1) := by
  rw [ofInt_exact low high, ofInt_exact (n := 1) (by decide) (by decide), finite_add]

theorem scale_dvd_roundInt (low : maxExact ≤ n) : scale ∣ roundInt (n * scale) := by
  have hn : 0 ≤ n := by
    unfold maxExact at low
    omega
  have habs : (n * scale).natAbs = n.natAbs * 2 ^ 1074 := by
    have hpow (k : Nat) : ((2 : Int) ^ k).natAbs = 2 ^ k := Int.natAbs_pow 2 k
    rw [scale_eq, Int.natAbs_mul, hpow]
  have hlarge : 2 ^ (significantBits + 1074) ≤ n.natAbs * 2 ^ 1074 := by
    rw [pow_add]
    refine Nat.mul_le_mul_right _ ?_
    unfold maxExact at low
    unfold significantBits
    omega
  have hcast (k m : Nat) (h : 2 ^ k ∣ m) : (2 : Int) ^ k ∣ m := by exact_mod_cast h
  unfold roundInt
  rw [if_pos (mul_nonneg hn scale_pos.le), habs, scale_eq]
  exact hcast _ _ (pow_dvd_roundTo hlarge)

/-- Beyond `2 ^ 53` an integer is still held as one of its neighbours. -/
theorem ofInt_near (low : maxExact ≤ n) (high : n < 2 * maxExact) :
    ∃ held : Int, ofInt n = .finite (held * scale) ∧ maxExact ≤ held ∧ held ≤ n + 1 := by
  have hpos := scale_pos
  have hlow : -maxExact * 2 ^ 1075 ≤ n * scale :=
    le_trans (mul_nonpos_of_nonpos_of_nonneg (by decide) (by positivity))
      (mul_nonneg (by unfold maxExact at low; omega) hpos.le)
  -- The even neighbour has one bit less.
  have heven : n * scale ≤ (n + 1) / 2 * 2 ^ 1075 := by
    rw [pow_succ', ← mul_assoc, ← scale_eq]
    exact mul_le_mul_of_nonneg_right (by omega) hpos.le
  have hhigh : n * scale ≤ maxExact * 2 ^ 1075 :=
    heven.trans (mul_le_mul_of_nonneg_right (by omega) (by positivity))
  obtain ⟨held, hheld⟩ := scale_dvd_roundInt low
  have hbelow := roundInt_mono (mul_le_mul_of_nonneg_right low hpos.le)
  have habove := roundInt_mono heven
  rw [roundInt_scale (by decide) (le_refl _), hheld, mul_comm scale] at hbelow
  rw [roundInt_exact (by unfold maxExact at low ⊢; omega) (by omega), hheld, pow_succ',
    ← mul_assoc, ← scale_eq, mul_comm scale] at habove
  refine ⟨held, ?_, le_of_mul_le_mul_right hbelow hpos, ?_⟩
  · unfold ofInt
    rw [ofUnits_finite (k := 1075) (by decide) hlow hhigh, hheld, mul_comm]
  · have hle := le_of_mul_le_mul_right habove hpos
    omega

/-- At least the integer. -/
def Above (n : Int) : Number → Prop
  | .finite units => n * scale ≤ units
  | .infinite negative => negative = false
  | .nan => False

theorem above_ofUnits (low : -maxExact ≤ n) (high : n ≤ maxExact) (h : n * scale ≤ r) :
    Above n (ofUnits r) := by
  have hround := roundInt_mono h
  rw [roundInt_scale low high] at hround
  unfold ofUnits
  by_cases hsmall : (roundInt r).natAbs < range
  · rw [if_pos hsmall]
    exact hround
  · rw [if_neg hsmall]
    refine decide_eq_false fun hnegative => hsmall ?_
    have hpos := scale_pos.le
    have hlow := (mul_le_mul_of_nonneg_right low hpos).trans hround
    have hhigh := hnegative.le.trans (mul_nonneg (show 0 ≤ maxExact by decide) hpos)
    rw [scale_eq] at hlow hhigh
    exact lt_range (by decide) hlow hhigh

theorem above_ofInt (low : -maxExact ≤ m) (high : m ≤ maxExact) (h : m ≤ n) :
    Above m (ofInt n) := by
  unfold ofInt
  exact above_ofUnits low high (mul_le_mul_of_nonneg_right h scale_pos.le)

theorem Above.add {least : Int} (hx : Above m x) (hy : Above n y) (sum : least ≤ m + n)
    (low : -maxExact ≤ least) (high : least ≤ maxExact) : Above least (x.add y) := by
  cases x with
  | nan => exact hx.elim
  | infinite negative =>
    cases hx
    cases y with
    | nan => exact hy.elim
    | infinite other =>
      cases hy
      exact rfl
    | finite units => exact rfl
  | finite units =>
    cases y with
    | nan => exact hy.elim
    | infinite negative => exact hy
    | finite other =>
      have hsum := mul_le_mul_of_nonneg_right sum scale_pos.le
      rw [add_mul] at hsum
      exact above_ofUnits low high (hsum.trans (add_le_add hx hy))

theorem lt_finite (r units : Int) :
    (Number.finite r).lt (.finite units) = decide (r < units) := by
  rw [Number.lt, Number.le, Number.le, ← decide_not, ← Bool.decide_and]
  exact decide_eq_decide.mpr ⟨fun h => not_le.mp h.2, fun h => ⟨h.le, not_le.mpr h⟩⟩

theorem lt_units (r n : Int) : r < n * scale ↔ r / scale < n :=
  (Int.ediv_lt_iff_lt_mul scale_pos).symm

theorem Above.lt (h : Above (r / scale + 1) x) : (Number.finite r).lt x = true := by
  cases x with
  | nan => exact h.elim
  | infinite negative =>
    cases h
    rfl
  | finite units =>
    rw [lt_finite, decide_eq_true_eq]
    exact lt_of_lt_of_le ((lt_units r _).mpr (lt_add_one _)) h

/-- What is left of a finite number after an integer is taken away. -/
theorem sub_ofInt (positive : 1 ≤ n) (low : -maxExact ≤ r / scale - n)
    (high : r / scale < maxExact) : ∃ rest, (Number.finite r).sub (.finite (n * scale)) =
      .finite rest ∧ r / scale - n ≤ rest / scale ∧ rest / scale < maxExact ∧
        (r < n * scale → rest < 0) := by
  have hpos := scale_pos
  have hbelow : (r / scale - n) * scale ≤ r - n * scale := by
    rw [sub_mul]
    exact sub_le_sub_right (Int.ediv_mul_le r hpos.ne') _
  have habove : r - n * scale ≤ (r / scale + 1 - n) * scale := by
    rw [sub_mul]
    exact sub_le_sub_right ((lt_units r _).mpr (lt_add_one _)).le _
  have hlow := roundInt_mono hbelow
  have hhigh := roundInt_mono habove
  rw [roundInt_scale low (by omega)] at hlow
  rw [roundInt_scale (by omega) (by omega)] at hhigh
  refine ⟨roundInt (r - n * scale), ?_, ?_, ?_, fun hless => ?_⟩
  · change ofUnits (r + -(n * scale)) = _
    rw [← sub_eq_add_neg]
    exact ofUnits_scale ((mul_le_mul_of_nonneg_right low hpos.le).trans hbelow)
      (habove.trans (mul_le_mul_of_nonneg_right (by omega) hpos.le))
  · exact (Int.le_ediv_iff_mul_le hpos).mpr hlow
  · have hdiv := Int.ediv_le_ediv hpos hhigh
    rw [Int.mul_ediv_cancel _ hpos.ne'] at hdiv
    omega
  · have hneg := roundInt_mono (show r - n * scale ≤ -1 * 2 ^ 0 by rw [pow_zero]; omega)
    rw [roundInt_exact (by decide) (by decide), pow_zero] at hneg
    omega

end

end JbChat.Foundation.Numbers
