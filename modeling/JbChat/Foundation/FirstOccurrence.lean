/- source: none
   digest: Keeping the first entry of each key, with entries that have no key left out. -/

import Mathlib.Data.List.Basic
import Mathlib.Tactic

set_option autoImplicit false

namespace JbChat.Foundation.FirstOccurrence

variable {α κ : Type} [DecidableEq κ] (key : α → Option κ)

/-- One pass over the entries: an entry is kept when it has a key that is not in `seen` yet. -/
def firstOccurrences : List κ → List α → List α
  | _, [] => []
  | seen, x :: xs =>
    match key x with
    | none => firstOccurrences seen xs
    | some k =>
      if k ∈ seen then firstOccurrences seen xs
      else x :: firstOccurrences (k :: seen) xs

variable {key} {seen others : List κ} {x : α} {xs ys : List α}

/-- The entry adds nothing to a pass that has seen these keys. -/
def Idle (key : α → Option κ) (seen : List κ) (x : α) : Prop :=
  ∀ k, key x = some k → k ∈ seen

theorem firstOccurrences_cons_of_idle (idle : Idle key seen x) :
    firstOccurrences key seen (x :: xs) = firstOccurrences key seen xs := by
  cases hk : key x with
  | none => simp only [firstOccurrences, hk]
  | some k => simp only [firstOccurrences, hk, if_pos (idle k hk)]

theorem firstOccurrences_cons_of_fresh {k : κ} (hk : key x = some k) (fresh : k ∉ seen) :
    firstOccurrences key seen (x :: xs) = x :: firstOccurrences key (k :: seen) xs := by
  simp only [firstOccurrences, hk, if_neg fresh]

private theorem idle_or_fresh (key : α → Option κ) (seen : List κ) (x : α) :
    Idle key seen x ∨ ∃ k, key x = some k ∧ k ∉ seen := by
  by_cases h : ∃ k, key x = some k ∧ k ∉ seen
  · exact .inr h
  · push Not at h
    exact .inl h

theorem firstOccurrences_congr (same : ∀ k, k ∈ seen ↔ k ∈ others) :
    firstOccurrences key seen xs = firstOccurrences key others xs := by
  induction xs generalizing seen others with
  | nil => rfl
  | cons x xs ih =>
    rcases idle_or_fresh key seen x with idle | ⟨k, hk, fresh⟩
    · have idle' : Idle key others x := fun k hk => (same k).mp (idle k hk)
      rw [firstOccurrences_cons_of_idle idle, firstOccurrences_cons_of_idle idle', ih same]
    · have fresh' : k ∉ others := fun h => fresh ((same k).mpr h)
      rw [firstOccurrences_cons_of_fresh hk fresh, firstOccurrences_cons_of_fresh hk fresh']
      congr 1
      apply ih
      intro j
      simp only [List.mem_cons, same j]

theorem firstOccurrences_append :
    firstOccurrences key seen (xs ++ ys) =
      firstOccurrences key seen xs ++ firstOccurrences key (xs.filterMap key ++ seen) ys := by
  induction xs generalizing seen with
  | nil => rfl
  | cons x xs ih =>
    rw [List.cons_append]
    rcases idle_or_fresh key seen x with idle | ⟨k, hk, fresh⟩
    · rw [firstOccurrences_cons_of_idle idle, firstOccurrences_cons_of_idle idle, ih]
      congr 1
      apply firstOccurrences_congr
      intro j
      cases hk : key x with
      | none => simp [hk]
      | some k =>
        have hseen := idle k hk
        simp only [List.filterMap_cons, hk, List.mem_append, List.cons_append, List.mem_cons]
        constructor
        · exact .inr
        · rintro (rfl | h)
          · exact .inr hseen
          · exact h
    · rw [firstOccurrences_cons_of_fresh hk fresh, firstOccurrences_cons_of_fresh hk fresh, ih,
        List.cons_append]
      congr 2
      apply firstOccurrences_congr
      intro j
      simp only [List.filterMap_cons, hk, List.mem_append, List.mem_cons, List.cons_append]
      tauto

theorem firstOccurrences_insert (idle : Idle key (xs.filterMap key ++ seen) x) :
    firstOccurrences key seen (xs ++ x :: ys) = firstOccurrences key seen (xs ++ ys) := by
  rw [firstOccurrences_append, firstOccurrences_append, firstOccurrences_cons_of_idle idle]

theorem firstOccurrences_idem :
    firstOccurrences key seen (firstOccurrences key seen xs) = firstOccurrences key seen xs := by
  induction xs generalizing seen with
  | nil => rfl
  | cons x xs ih =>
    rcases idle_or_fresh key seen x with idle | ⟨k, hk, fresh⟩
    · rw [firstOccurrences_cons_of_idle idle, ih]
    · rw [firstOccurrences_cons_of_fresh hk fresh, firstOccurrences_cons_of_fresh hk fresh, ih]

end JbChat.Foundation.FirstOccurrence
