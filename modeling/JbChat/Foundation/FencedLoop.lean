/- source: none
   digest: A loop of guarded writes that stops at the first one that is refused. -/

import JbChat.Foundation.Transaction

set_option autoImplicit false

namespace JbChat.Foundation.FencedLoop

open Transaction

variable {σ ε ι : Type} (attempt : ι → σ → Except ε (Option σ))

/-- Attempt the items in order. The result says whether all of them were taken; a refused
item ends the loop, and what was written before it stays. -/
def fencedLoop : List ι → Tx σ ε Bool
  | [] => pure true
  | item :: items => fun s =>
    match attempt item s with
    | .error e => .error e
    | .ok none => .ok (false, s)
    | .ok (some written) => fencedLoop items written

def Refuses (item : ι) (s : σ) : Prop := attempt item s = .ok none

/-- The items were taken one after the other. -/
inductive Took : σ → List ι → σ → Prop where
  | nil {s : σ} : Took s [] s
  | cons {s written final : σ} {item : ι} {items : List ι}
      (first : attempt item s = .ok (some written)) (rest : Took written items final) :
      Took s (item :: items) final

variable {attempt} {items : List ι} {s final : σ}

theorem fencedLoop_eq_true : fencedLoop attempt items s = .ok (true, final) ↔
    Took attempt s items final := by
  induction items generalizing s with
  | nil =>
    constructor
    · intro h
      obtain ⟨-, rfl⟩ := Tx.pure_eq_ok.mp h
      exact .nil
    · rintro ⟨⟩
      rfl
  | cons item items ih =>
    unfold fencedLoop
    constructor
    · intro h
      cases hitem : attempt item s with
      | error e => simp [hitem] at h
      | ok result =>
        cases result with
        | none => simp [hitem] at h
        | some written =>
          simp only [hitem] at h
          exact .cons hitem (ih.mp h)
    · rintro (⟨⟩ | ⟨hfirst, hrest⟩)
      simp only [hfirst]
      exact ih.mpr hrest

theorem fencedLoop_eq_false : fencedLoop attempt items s = .ok (false, final) ↔
    ∃ taken item rest, items = taken ++ item :: rest ∧ Took attempt s taken final ∧
      Refuses attempt item final := by
  induction items generalizing s with
  | nil =>
    constructor
    · intro h
      obtain ⟨hfalse, -⟩ := Tx.pure_eq_ok.mp h
      cases hfalse
    · rintro ⟨taken, item, rest, hsplit, -⟩
      simp at hsplit
  | cons item items ih =>
    unfold fencedLoop
    constructor
    · intro h
      cases hitem : attempt item s with
      | error e => simp [hitem] at h
      | ok result =>
        cases result with
        | none =>
          obtain rfl : s = final := by simpa [hitem] using h
          exact ⟨[], item, items, rfl, .nil, hitem⟩
        | some written =>
          simp only [hitem] at h
          obtain ⟨taken, stop, rest, rfl, htook, hstop⟩ := ih.mp h
          exact ⟨item :: taken, stop, rest, rfl, .cons hitem htook, hstop⟩
    · rintro ⟨taken, stop, rest, hsplit, htook, hstop⟩
      cases htook with
      | nil =>
        obtain ⟨rfl, -⟩ := List.cons.inj hsplit
        simp [show attempt item final = .ok none from hstop]
      | cons hfirst htook =>
        obtain ⟨rfl, hrest⟩ := List.cons.inj hsplit
        simp only [hfirst]
        exact ih.mpr ⟨_, stop, rest, hrest, htook, hstop⟩

end JbChat.Foundation.FencedLoop
