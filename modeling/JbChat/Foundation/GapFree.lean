/- source: none
   digest: Tables whose rows carry, for each key, the positions from one on without a gap. -/

import Mathlib.Data.List.Basic
import Mathlib.Data.List.Nodup
import Mathlib.Tactic

set_option autoImplicit false

namespace JbChat.Foundation.GapFree

variable {ρ κ : Type} [DecidableEq κ]

/-- The rows of one key, in table order. -/
def keyed (key : ρ → κ) (k : κ) (rows : List ρ) : List ρ :=
  rows.filter fun row => decide (key row = k)

/-- For each key the rows appear with the positions `1, 2, 3, …`. -/
def NoGaps (key : ρ → κ) (position : ρ → Nat) (rows : List ρ) : Prop :=
  ∀ k, (keyed key k rows).map position = List.range' 1 (keyed key k rows).length

variable {key : ρ → κ} {position : ρ → Nat} {rows : List ρ} {row : ρ} {k : κ}

theorem mem_keyed : row ∈ keyed key k rows ↔ row ∈ rows ∧ key row = k := by
  simp [keyed]

theorem keyed_append_singleton (rows : List ρ) (row : ρ) (k : κ) :
    keyed key k (rows ++ [row]) = keyed key k rows ++ if key row = k then [row] else [] := by
  unfold keyed
  rw [List.filter_append]
  by_cases h : key row = k
  · simp [h]
  · simp [h]

theorem keyed_of_nodup (nodup : (rows.map key).Nodup) (hrow : row ∈ rows) :
    keyed key (key row) rows = [row] := by
  refine List.perm_singleton.mp ((List.perm_ext_iff_of_nodup (nodup.of_map.filter _)
    (List.nodup_singleton row)).mpr ?_)
  intro other
  rw [List.mem_filter, decide_eq_true_eq, List.mem_singleton]
  constructor
  · rintro ⟨hother, hkey⟩
    exact List.inj_on_of_nodup_map nodup hother hrow hkey
  · rintro rfl
    exact ⟨hrow, rfl⟩

theorem NoGaps.nil : NoGaps key position [] := fun _ => rfl

theorem NoGaps.append (gapFree : NoGaps key position rows)
    (next : position row = (keyed key (key row) rows).length + 1) :
    NoGaps key position (rows ++ [row]) := by
  intro k
  rw [keyed_append_singleton]
  by_cases h : key row = k
  · subst h
    simp only [if_true, List.map_append, List.map_cons, List.map_nil, List.length_append,
      List.length_singleton]
    rw [gapFree, List.range'_concat, next]
    simp [Nat.add_comm]
  · simpa only [h, if_false, List.append_nil] using gapFree k

theorem NoGaps.bounds (gapFree : NoGaps key position rows) (hrow : row ∈ rows) :
    1 ≤ position row ∧ position row ≤ (keyed key (key row) rows).length := by
  have hmem : position row ∈ (keyed key (key row) rows).map position :=
    List.mem_map_of_mem (mem_keyed.mpr ⟨hrow, rfl⟩)
  rw [gapFree, List.mem_range'_1] at hmem
  omega

theorem NoGaps.exists_iff (gapFree : NoGaps key position rows) (k : κ) (p : Nat) :
    (∃ row ∈ rows, key row = k ∧ position row = p) ↔
      1 ≤ p ∧ p ≤ (keyed key k rows).length := by
  constructor
  · rintro ⟨row, hrow, rfl, rfl⟩
    exact gapFree.bounds hrow
  · rintro ⟨hlow, hhigh⟩
    have hmem : p ∈ (keyed key k rows).map position := by
      rw [gapFree, List.mem_range'_1]
      omega
    obtain ⟨row, hrow, hposition⟩ := List.mem_map.mp hmem
    obtain ⟨hrow, hkey⟩ := mem_keyed.mp hrow
    exact ⟨row, hrow, hkey, hposition⟩

theorem NoGaps.nodup_positions (gapFree : NoGaps key position rows) (k : κ) :
    ((keyed key k rows).map position).Nodup := by
  rw [gapFree]
  exact List.nodup_range'

theorem NoGaps.unique (gapFree : NoGaps key position rows) {other : ρ} (hrow : row ∈ rows)
    (hother : other ∈ rows) (hkey : key other = key row) (hposition : position other = position row) :
    other = row :=
  List.inj_on_of_nodup_map (gapFree.nodup_positions (key row)) (mem_keyed.mpr ⟨hother, hkey⟩)
    (mem_keyed.mpr ⟨hrow, rfl⟩) hposition

theorem NoGaps.nodup (gapFree : NoGaps key position rows) : rows.Nodup := by
  classical
  rw [List.nodup_iff_count_le_one]
  intro row
  have hcount : rows.count row = (keyed key (key row) rows).count row := by
    unfold keyed
    rw [List.count_filter (by simp)]
  rw [hcount]
  exact List.nodup_iff_count_le_one.mp (gapFree.nodup_positions (key row)).of_map row

theorem NoGaps.nodup_pairs (gapFree : NoGaps key position rows) :
    (rows.map fun row => (key row, position row)).Nodup := by
  refine (List.nodup_map_iff_inj_on gapFree.nodup).mpr ?_
  intro other hother row hrow hpair
  exact gapFree.unique hrow hother (congrArg Prod.fst hpair) (congrArg Prod.snd hpair)

theorem NoGaps.filter_eq (gapFree : NoGaps key position rows) (hrow : row ∈ rows) :
    (rows.filter fun other => decide (key other = key row ∧ position other = position row)) =
      [row] := by
  have hquery : (rows.filter fun other =>
      decide (key other = key row ∧ position other = position row)) =
        keyed (fun other => (key other, position other)) (key row, position row) rows := by
    apply List.filter_congr
    intro other hother
    rw [decide_eq_decide, Prod.mk.injEq]
  rw [hquery]
  exact keyed_of_nodup gapFree.nodup_pairs hrow

end JbChat.Foundation.GapFree
