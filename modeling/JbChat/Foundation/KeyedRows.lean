/- source: none
   digest: Rows sorted by their keys. -/

import Mathlib.Data.List.Sort
import Mathlib.Tactic

set_option autoImplicit false

namespace JbChat.Foundation.KeyedRows

variable {κ α β : Type}

theorem row_unique {rows : List (κ × α)} (nodup : (rows.map Prod.fst).Nodup) {a b : κ × α}
    (ha : a ∈ rows) (hb : b ∈ rows) (same : a.1 = b.1) : a = b :=
  List.inj_on_of_nodup_map nodup ha hb same

theorem perm_of_mem {rows others : List (κ × α)} (nodup : (rows.map Prod.fst).Nodup)
    (count : rows.length = others.length) (sub : ∀ row ∈ rows, row ∈ others) :
    rows.Perm others :=
  (List.subperm_of_subset (List.Nodup.of_map _ nodup) sub).perm_of_length_le
    (Nat.le_of_eq count.symm)

variable [LinearOrder κ]

def sortByKey (rows : List (κ × α)) : List (κ × α) := rows.insertionSort fun a b => a.1 ≤ b.1

theorem perm_sortByKey (rows : List (κ × α)) : (sortByKey rows).Perm rows :=
  List.perm_insertionSort _ rows

theorem mem_sortByKey {rows : List (κ × α)} {row : κ × α} : row ∈ sortByKey rows ↔ row ∈ rows :=
  (perm_sortByKey rows).mem_iff

theorem sortByKey_sorted (rows : List (κ × α)) :
    (sortByKey rows).Pairwise fun a b => a.1 ≤ b.1 := by
  have : Std.Total fun a b : κ × α => a.1 ≤ b.1 := ⟨fun a b => le_total a.1 b.1⟩
  have : IsTrans (κ × α) fun a b => a.1 ≤ b.1 := ⟨fun _ _ _ => le_trans⟩
  exact List.pairwise_insertionSort _ rows

theorem sortByKey_congr {rows others : List (κ × α)} (nodup : (rows.map Prod.fst).Nodup)
    (perm : rows.Perm others) : sortByKey rows = sortByKey others := by
  have sorted := (perm_sortByKey rows).trans (perm.trans (perm_sortByKey others).symm)
  refine sorted.eq_of_pairwise (fun a b ha hb hab hba => ?_) (sortByKey_sorted rows)
    (sortByKey_sorted others)
  exact row_unique nodup (mem_sortByKey.mp ha) (perm.mem_iff.mpr (mem_sortByKey.mp hb))
    (le_antisymm hab hba)

section

variable {rows : List (κ × α)} {others : List (κ × β)}

/-- Rows with one key and related values. -/
def RowsRelated (R : α → β → Prop) (row : κ × α) (other : κ × β) : Prop :=
  row.1 = other.1 ∧ R row.2 other.2

variable {R : α → β → Prop}

theorem related_orderedInsert {row : κ × α} {other : κ × β} (head : RowsRelated R row other)
    (h : List.Forall₂ (RowsRelated R) rows others) :
    List.Forall₂ (RowsRelated R) (rows.orderedInsert (fun a b => a.1 ≤ b.1) row)
      (others.orderedInsert (fun a b => a.1 ≤ b.1) other) := by
  induction h with
  | nil => exact .cons head .nil
  | cons first rest ih =>
    simp only [List.orderedInsert_cons]
    rw [← head.1, ← first.1]
    split_ifs
    · exact .cons head (.cons first rest)
    · exact .cons first ih

theorem related_sortByKey (h : List.Forall₂ (RowsRelated R) rows others) :
    List.Forall₂ (RowsRelated R) (sortByKey rows) (sortByKey others) := by
  induction h with
  | nil => exact .nil
  | cons first rest ih =>
    unfold sortByKey
    rw [List.insertionSort_cons, List.insertionSort_cons]
    exact related_orderedInsert first ih

end

end JbChat.Foundation.KeyedRows
