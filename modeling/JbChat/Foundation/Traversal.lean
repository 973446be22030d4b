/- source: none
   digest: A fallible function over a list, and over its permutations. -/

import Mathlib.Data.List.Forall2
import Mathlib.Data.List.Perm.Basic

set_option autoImplicit false

namespace JbChat.Foundation.Traversal

variable {ε α β : Type} {f : α → Except ε β} {rows others : List α} {values : List β}

theorem mapM_eq_ok : rows.mapM f = .ok values ↔
    List.Forall₂ (fun row value => f row = .ok value) rows values := by
  induction rows generalizing values with
  | nil =>
    rw [List.mapM_nil, List.forall₂_nil_left_iff]
    exact ⟨fun h => (Except.ok.inj h).symm, fun h => h ▸ rfl⟩
  | cons row rows ih =>
    rw [List.mapM_cons]
    constructor
    · intro h
      cases hrow : f row with
      | error e =>
        rw [hrow] at h
        cases h
      | ok value =>
        rw [hrow] at h
        cases hrows : rows.mapM f with
        | error e =>
          rw [hrows] at h
          cases h
        | ok later =>
          rw [hrows] at h
          rw [← Except.ok.inj h]
          exact .cons hrow (ih.mp hrows)
    · rintro (_ | ⟨hrow, hrows⟩)
      rw [hrow, ih.mpr hrows]
      rfl

theorem exists_mapM : (∃ values, rows.mapM f = .ok values) ↔ ∀ row ∈ rows, ∃ value,
    f row = .ok value := by
  induction rows with
  | nil => exact ⟨fun _ _ h => absurd h List.not_mem_nil, fun _ => ⟨[], rfl⟩⟩
  | cons row rows ih =>
    rw [List.forall_mem_cons, ← ih]
    constructor
    · rintro ⟨values, h⟩
      obtain _ | ⟨hrow, hrows⟩ := mapM_eq_ok.mp h
      exact ⟨⟨_, hrow⟩, _, mapM_eq_ok.mpr hrows⟩
    · rintro ⟨⟨value, hvalue⟩, values, hvalues⟩
      exact ⟨value :: values, mapM_eq_ok.mpr (.cons hvalue (mapM_eq_ok.mp hvalues))⟩

theorem mapM_congr {γ : Type} {g : γ → Except ε β} {partners : List γ}
    (h : List.Forall₂ (fun row partner => f row = g partner) rows partners) :
    rows.mapM f = partners.mapM g := by
  induction h with
  | nil => rfl
  | cons hrow _ ih => rw [List.mapM_cons, List.mapM_cons, hrow, ih]

theorem mem_of_mapM (h : rows.mapM f = .ok values) (value : β) :
    value ∈ values ↔ ∃ row ∈ rows, f row = .ok value := by
  induction rows generalizing values with
  | nil =>
    obtain _ | _ := mapM_eq_ok.mp h
    simp
  | cons row rows ih =>
    obtain _ | ⟨hrow, hrows⟩ := mapM_eq_ok.mp h
    rw [List.mem_cons, ih (mapM_eq_ok.mpr hrows)]
    constructor
    · rintro (rfl | ⟨other, hother, hvalue⟩)
      · exact ⟨row, List.mem_cons_self, hrow⟩
      · exact ⟨other, List.mem_cons_of_mem _ hother, hvalue⟩
    · rintro ⟨other, hother, hvalue⟩
      rcases List.mem_cons.mp hother with rfl | hother
      · rw [hrow] at hvalue
        exact Or.inl (Except.ok.inj hvalue).symm
      · exact Or.inr ⟨other, hother, hvalue⟩

theorem exists_of_mapM (h : rows.mapM f = .ok values) {row : α} (hrow : row ∈ rows) :
    ∃ value ∈ values, f row = .ok value := by
  obtain ⟨value, hvalue⟩ := exists_mapM.mp ⟨values, h⟩ row hrow
  exact ⟨value, (mem_of_mapM h value).mpr ⟨row, hrow, hvalue⟩, hvalue⟩

theorem eq_of_mapM {check : α → Except ε α} {checked : List α}
    (returns : ∀ row value, check row = .ok value → value = row)
    (h : rows.mapM check = .ok checked) : checked = rows := by
  have each := mapM_eq_ok.mp h
  clear h
  induction each with
  | nil => rfl
  | cons hrow _ ih => rw [returns _ _ hrow, ih]

theorem forall₂_trans {γ : Type} {R : α → β → Prop} {S : β → γ → Prop} {T : α → γ → Prop}
    (through : ∀ a b c, R a b → S b c → T a c) {xs : List α} {ys : List β} {zs : List γ}
    (first : List.Forall₂ R xs ys) (second : List.Forall₂ S ys zs) : List.Forall₂ T xs zs := by
  induction first generalizing zs with
  | nil =>
    cases second
    exact .nil
  | cons hfirst _ ih =>
    obtain _ | ⟨hsecond, hrest⟩ := second
    exact .cons (through _ _ _ hfirst hsecond) (ih hrest)

theorem mapM_perm (perm : rows.Perm others) (h : rows.mapM f = .ok values) :
    ∃ permuted, others.mapM f = .ok permuted ∧ values.Perm permuted := by
  induction perm generalizing values with
  | nil => exact ⟨values, h, .refl _⟩
  | cons row _ ih =>
    obtain _ | ⟨hrow, hrows⟩ := mapM_eq_ok.mp h
    obtain ⟨permuted, hpermuted, hperm⟩ := ih (mapM_eq_ok.mpr hrows)
    exact ⟨_, mapM_eq_ok.mpr (.cons hrow (mapM_eq_ok.mp hpermuted)), hperm.cons _⟩
  | swap first second rows =>
    obtain _ | ⟨hsecond, hrest⟩ := mapM_eq_ok.mp h
    obtain _ | ⟨hfirst, hrows⟩ := hrest
    exact ⟨_, mapM_eq_ok.mpr (.cons hfirst (.cons hsecond hrows)), .swap _ _ _⟩
  | trans _ _ ih ih' =>
    obtain ⟨between, hbetween, hperm⟩ := ih h
    obtain ⟨permuted, hpermuted, hperm'⟩ := ih' hbetween
    exact ⟨permuted, hpermuted, hperm.trans hperm'⟩

end JbChat.Foundation.Traversal
