/- source: none
   digest: A machine that answers its inputs, and inputs that can be purged from a run. -/

import Mathlib.Data.List.Basic

set_option autoImplicit false

namespace JbChat.Foundation.Purge

variable {σ ι ρ : Type} (step : σ → ι → σ × ρ)

/-- The inputs of a run, each with the answer it was given. -/
def answers : σ → List ι → List (ι × ρ)
  | _, [] => []
  | s, input :: inputs => (input, (step s input).2) :: answers (step s input).1 inputs

/-- The state after a run. -/
def after (s : σ) (inputs : List ι) : σ := inputs.foldl (fun s input => (step s input).1) s

variable {step} {s : σ} {inputs more : List ι}

theorem answers_append :
    answers step s (inputs ++ more) =
      answers step s inputs ++ answers step (after step s inputs) more := by
  induction inputs generalizing s with
  | nil => rfl
  | cons input inputs ih =>
    simp only [List.cons_append, answers, ih]
    rfl

theorem answers_map_fst (step : σ → ι → σ × ρ) (s : σ) (inputs : List ι) :
    (answers step s inputs).map Prod.fst = inputs := by
  induction inputs generalizing s with
  | nil => rfl
  | cons input inputs ih => simp [answers, ih]

theorem answers_purge (keeps : ι → Bool)
    (silent : ∀ s input, keeps input = false → (step s input).1 = s) :
    answers step s (inputs.filter keeps) =
      (answers step s inputs).filter fun answered => keeps answered.1 := by
  induction inputs generalizing s with
  | nil => rfl
  | cons input inputs ih =>
    cases hkeeps : keeps input with
    | true =>
      rw [List.filter_cons_of_pos hkeeps]
      simp only [answers]
      rw [List.filter_cons_of_pos (by exact hkeeps), ih]
    | false =>
      rw [List.filter_cons_of_neg (by simp [hkeeps])]
      simp only [answers]
      rw [List.filter_cons_of_neg (by simp [hkeeps]), silent s input hkeeps, ih]

theorem after_induction (step : σ → ι → σ × ρ) (s : σ) {motive : List (ι × ρ) → σ → Prop}
    (start : motive [] s)
    (move : ∀ past state input, motive past state →
      motive (past ++ [(input, (step state input).2)]) (step state input).1)
    (inputs : List ι) : motive (answers step s inputs) (after step s inputs) := by
  suffices general : ∀ past state, motive past state →
      motive (past ++ answers step state inputs) (after step state inputs) by
    simpa using general [] s start
  induction inputs with
  | nil =>
    intro past state holds
    simpa [answers, after] using holds
  | cons input inputs ih =>
    intro past state holds
    have next := ih _ _ (move past state input holds)
    simpa [answers, after, List.append_assoc] using next

end JbChat.Foundation.Purge
