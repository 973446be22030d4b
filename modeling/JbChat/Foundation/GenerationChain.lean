/- source: none
   digest: Generations numbered from zero of which only the newest may be live. -/

import Mathlib.Data.List.Basic
import Mathlib.Data.List.Nodup
import Mathlib.Data.List.Range

set_option autoImplicit false

namespace JbChat.Foundation.GenerationChain

variable {α : Type} {gen : α → Nat} {live : α → Prop} {rows : List α}

/-- The rows are numbered in order, and a live one is the last of them. -/
structure Chain (gen : α → Nat) (live : α → Prop) (rows : List α) : Prop where
  numbered : rows.map gen = List.range rows.length
  newest : ∀ row ∈ rows, live row → gen row + 1 = rows.length

theorem Chain.nil : Chain gen live [] :=
  ⟨rfl, fun _ hrow => absurd hrow List.not_mem_nil⟩

theorem Chain.eq_of_gen_eq (chain : Chain gen live rows) {row other : α} (hrow : row ∈ rows)
    (hother : other ∈ rows) (same : gen row = gen other) : row = other := by
  have distinct : (rows.map gen).Nodup := by
    rw [chain.numbered]
    exact List.nodup_range
  exact List.inj_on_of_nodup_map distinct hrow hother same

theorem Chain.eq_of_live (chain : Chain gen live rows) {row other : α} (hrow : row ∈ rows)
    (hother : other ∈ rows) (hlive : live row) (hotherLive : live other) : row = other := by
  have newest := chain.newest row hrow hlive
  have newestOther := chain.newest other hother hotherLive
  exact chain.eq_of_gen_eq hrow hother (by omega)

theorem Chain.map (chain : Chain gen live rows) (change : α → α)
    (keeps : ∀ row ∈ rows, gen (change row) = gen row)
    (retires : ∀ row ∈ rows, live (change row) → live row) :
    Chain gen live (rows.map change) := by
  constructor
  · rw [List.map_map, List.length_map, ← chain.numbered]
    exact List.map_congr_left keeps
  · intro row hrow hlive
    obtain ⟨before, hbefore, rfl⟩ := List.mem_map.mp hrow
    rw [List.length_map, keeps before hbefore]
    exact chain.newest before hbefore (retires before hbefore hlive)

theorem Chain.append (chain : Chain gen live rows) (retired : ∀ row ∈ rows, ¬ live row) {row : α}
    (next : gen row = rows.length) : Chain gen live (rows ++ [row]) := by
  constructor
  · rw [List.map_append, chain.numbered, List.map_singleton, next, List.length_append,
      List.length_singleton, List.range_succ]
  · intro member hmember hlive
    rcases List.mem_append.mp hmember with hold | hnew
    · exact absurd hlive (retired member hold)
    · obtain rfl := List.mem_singleton.mp hnew
      rw [next, List.length_append, List.length_singleton]

theorem Chain.filter_live_length [DecidablePred live] (chain : Chain gen live rows) :
    (rows.filter fun row => decide (live row)).length ≤ 1 := by
  have distinct : rows.Nodup := by
    apply List.Nodup.of_map gen
    rw [chain.numbered]
    exact List.nodup_range
  rcases hfiltered : rows.filter fun row => decide (live row) with _ | ⟨first, _ | ⟨second, rest⟩⟩
  · exact Nat.zero_le 1
  · exact le_refl 1
  · have members : ∀ row ∈ first :: second :: rest, row ∈ rows ∧ live row := by
      intro row hrow
      rw [← hfiltered] at hrow
      exact ⟨(List.mem_filter.mp hrow).1, of_decide_eq_true (List.mem_filter.mp hrow).2⟩
    have hfirst := members first (by simp)
    have hsecond := members second (by simp)
    have same := chain.eq_of_live hfirst.1 hsecond.1 hfirst.2 hsecond.2
    have nodup := distinct.filter (fun row => decide (live row))
    rw [hfiltered] at nodup
    exact absurd (same ▸ List.mem_cons_self) (List.nodup_cons.mp nodup).1

end JbChat.Foundation.GenerationChain
