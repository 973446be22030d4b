/- source: none
   digest: Runs of a step function that may refuse, with a condition on each step taken. -/

import Mathlib.Data.List.Basic

set_option autoImplicit false

namespace JbChat.Foundation.GuardedRun

variable {σ ε : Type} (step : ε → σ → Option σ) (guard : ε → σ → Prop)

/-- The state that the events lead to, if each of them can be taken. -/
def run : List ε → σ → Option σ
  | [], state => some state
  | event :: rest, state => (step event state).bind (run rest)

def Guarded : List ε → σ → Prop
  | [], _ => True
  | event :: rest, state => guard event state ∧
      match step event state with
      | none => True
      | some next => Guarded rest next

instance Guarded.decide [∀ event state, Decidable (guard event state)] :
    (events : List ε) → (state : σ) → Decidable (Guarded step guard events state)
  | [], _ => .isTrue trivial
  | event :: rest, state =>
    match h : step event state with
    | none => decidable_of_iff (guard event state) (by rw [Guarded, h]; simp only [and_true])
    | some next =>
      let _ := Guarded.decide rest next
      decidable_of_iff (guard event state ∧ Guarded step guard rest next)
        (by rw [Guarded, h])

variable {step guard} {events : List ε} {state final : σ}

theorem run_cons {event : ε} (h : run step (event :: events) state = some final) :
    ∃ next, step event state = some next ∧ run step events next = some final :=
  Option.bind_eq_some_iff.mp h

theorem Guarded.next {event : ε} {next : σ} (h : Guarded step guard (event :: events) state)
    (hnext : step event state = some next) : Guarded step guard events next := by
  have hrest := h.2
  rwa [hnext] at hrest

theorem Guarded.cons {event : ε} (now : guard event state)
    (later : ∀ next, step event state = some next → Guarded step guard events next) :
    Guarded step guard (event :: events) state := by
  refine ⟨now, ?_⟩
  cases hnext : step event state with
  | none => trivial
  | some next => exact later next hnext

theorem Guarded.of_forall (h : ∀ event ∈ events, ∀ state, guard event state) :
    Guarded step guard events state := by
  induction events generalizing state with
  | nil => trivial
  | cons event rest ih =>
    exact .cons (h event List.mem_cons_self state) fun next _ =>
      ih fun other hother => h other (List.mem_cons_of_mem event hother)

theorem guarded_cons_iff {event : ε} {next : σ} (hnext : step event state = some next) :
    Guarded step guard (event :: events) state ↔
      guard event state ∧ Guarded step guard events next := by
  rw [Guarded, hnext]

theorem run_append {first second : List ε} :
    run step (first ++ second) state = (run step first state).bind (run step second) := by
  induction first generalizing state with
  | nil => rfl
  | cons event rest ih =>
    change (step event state).bind (run step (rest ++ second)) =
      ((step event state).bind (run step rest)).bind (run step second)
    cases step event state with
    | none => rfl
    | some next => exact ih

theorem Guarded.after {first second : List ε} {middle : σ}
    (h : Guarded step guard (first ++ second) state) (hfirst : run step first state = some middle) :
    Guarded step guard second middle := by
  induction first generalizing state with
  | nil => exact Option.some.inj hfirst ▸ h
  | cons event rest ih =>
    obtain ⟨next, hnext, hrest⟩ := run_cons hfirst
    exact ih (h.next hnext) hrest

theorem Guarded.mono {stricter : ε → σ → Prop} (h : Guarded step stricter events state)
    (weaken : ∀ event state, stricter event state → guard event state) :
    Guarded step guard events state := by
  induction events generalizing state with
  | nil => trivial
  | cons event rest ih =>
    exact .cons (weaken event state h.1) fun next hnext => ih (h.next hnext)

theorem invariant_of_run {Inv : σ → Prop}
    (keeps : ∀ event state next, Inv state → guard event state → step event state = some next →
      Inv next) (start : Inv state) (guarded : Guarded step guard events state)
    (h : run step events state = some final) : Inv final := by
  induction events generalizing state with
  | nil => exact Option.some.inj h ▸ start
  | cons event rest ih =>
    obtain ⟨next, hnext, h⟩ := run_cons h
    exact ih (keeps event state next start guarded.1 hnext) (guarded.next hnext) h

end JbChat.Foundation.GuardedRun
