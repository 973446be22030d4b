/- source: none
   digest: Times taken under a budget for every window of one length. -/

import Mathlib.Data.List.Basic
import Mathlib.Tactic

/-!
Times are compared by any function `le`, and `sees now time` tells whether the window that ends
at `now` still reaches back to the time.
-/

set_option autoImplicit false

namespace JbChat.Foundation.SlidingWindow

section

variable {α : Type} (le sees : α → α → Bool)

/-- The times in the window that ends at `t`. -/
def within (t : α) (times : List α) : List α := times.filter fun u => sees t u && le u t

/-- The times that a window ending at `now` or later can still see. -/
def recent (now : α) (times : List α) : List α := times.filter (sees now)

/-- No window holds more than `limit` of the times. -/
def Bounded (limit : Nat) (times : List α) : Prop :=
  ∀ t, (within le sees t times).length ≤ limit

/-- A later window sees nothing that an earlier one does not reach back to. -/
def Forgets : Prop :=
  ∀ now later u, le now later = true → sees later u = true → sees now u = true

variable {le sees} {now later : α} {limit : Nat} {times : List α}

theorem Bounded.nil : Bounded le sees limit [] := fun _ => Nat.zero_le _

theorem recent_of_le (forgets : Forgets le sees) (order : le now later = true) :
    recent sees later (recent sees now times) = recent sees later times := by
  unfold recent
  rw [List.filter_filter]
  apply List.filter_congr
  intro u _
  rw [Bool.eq_iff_iff, Bool.and_eq_true]
  exact ⟨And.left, fun h => ⟨h, forgets now later u order h⟩⟩

theorem Bounded.append (bounded : Bounded le sees limit times) (forgets : Forgets le sees)
    (room : (recent sees now times).length < limit) :
    Bounded le sees limit (times ++ [now]) := by
  intro t
  unfold within
  rw [List.filter_append, List.length_append]
  by_cases inside : (sees t now && le now t) = true
  · have fewer : (within le sees t times).length ≤ (recent sees now times).length := by
      apply List.Sublist.length_le
      apply List.monotone_filter_right
      intro u hu
      rw [Bool.and_eq_true] at hu inside
      exact forgets now t u inside.2 hu.1
    simp only [List.filter_cons, inside, ↓reduceIte, List.filter_nil, List.length_singleton]
    unfold within at fewer
    omega
  · simp only [List.filter_cons, inside, List.filter_nil]
    exact bounded t

end

end JbChat.Foundation.SlidingWindow
