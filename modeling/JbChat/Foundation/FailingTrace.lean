/- source: none
   digest: Programs whose operations may fail and whose effects outside stay when they do. -/

import Mathlib.Data.List.Basic

/-!
An operation fails by its number, so one predicate on the numbers says where a run is cut. A
specification tells the events of a run that returns from those of a run that is cut.
-/

set_option autoImplicit false

namespace JbChat.Foundation.FailingTrace

variable {ε α β γ : Type}

/-- The operations counted so far, and what has happened outside. -/
structure Trace (ε : Type) where
  operations : Nat
  events : List ε

/-- A program that continues a trace and may throw. -/
def Attempt (ε α : Type) := Trace ε → Option α × Trace ε

namespace Attempt

instance : Monad (Attempt ε) where
  pure a := fun trace => (some a, trace)
  bind program next := fun trace =>
    match program trace with
    | (some a, reached) => next a reached
    | (none, reached) => (none, reached)

/-- The next operation throws when its number says so or when it has no answer. -/
def operation (fails : Nat → Bool) (answer : Nat → Option α) : Attempt ε α := fun trace =>
  (if fails trace.operations then none else answer trace.operations,
    { trace with operations := trace.operations + 1 })

/-- Something happens outside. -/
def record (event : ε) : Attempt ε Unit := fun trace =>
  (some (), { trace with events := trace.events ++ [event] })

end Attempt

open Attempt

/-- Whatever came before, the run adds events: as `ends` has it with the value returned, as `cuts`
has it when it throws. -/
def Meets (program : Attempt ε α) (ends : List ε → α → Prop) (cuts : List ε → Prop) : Prop :=
  ∀ trace, ∃ fresh, (program trace).2.events = trace.events ++ fresh ∧
    match (program trace).1 with
    | some a => ends fresh a
    | none => cuts fresh

section

variable {program : Attempt ε α} {ends : List ε → α → Prop} {cuts : List ε → Prop} {event : ε}
  {fails : Nat → Bool} {answer : Nat → Option α} {next : α → Attempt ε β}

theorem Meets.mono {ends' : List ε → α → Prop} {cuts' : List ε → Prop}
    (h : Meets program ends cuts) (hends : ∀ fresh a, ends fresh a → ends' fresh a)
    (hcuts : ∀ fresh, cuts fresh → cuts' fresh) : Meets program ends' cuts' := by
  intro trace
  obtain ⟨fresh, hevents, houtcome⟩ := h trace
  refine ⟨fresh, hevents, ?_⟩
  cases hresult : (program trace).1 with
  | some a =>
    rw [hresult] at houtcome
    exact hends fresh a houtcome
  | none =>
    rw [hresult] at houtcome
    exact hcuts fresh houtcome

theorem meets_pure {a : α} (h : ends [] a) : Meets (pure a : Attempt ε α) ends cuts := by
  intro trace
  exact ⟨[], (List.append_nil _).symm, h⟩

theorem meets_record {ends : List ε → Unit → Prop} (h : ends [event] ()) :
    Meets (record event) ends cuts := by
  intro trace
  exact ⟨[event], rfl, h⟩

theorem meets_operation (hends : ∀ n a, fails n = false → answer n = some a → ends [] a)
    (hcuts : ∀ n, fails n = true ∨ answer n = none → cuts []) :
    Meets (operation fails answer) ends cuts := by
  intro trace
  refine ⟨[], (List.append_nil _).symm, ?_⟩
  by_cases hfails : fails trace.operations = true
  · have hcut := hcuts trace.operations (Or.inl hfails)
    simpa only [operation, hfails, if_true] using hcut
  · rw [Bool.not_eq_true] at hfails
    simp only [operation, hfails, Bool.false_eq_true, if_false]
    cases hanswer : answer trace.operations with
    | some a => exact hends trace.operations a hfails hanswer
    | none => exact hcuts trace.operations (Or.inr hanswer)

theorem meets_bind {ends : List ε → β → Prop} (between : List ε → α → Prop) (cut : List ε → Prop)
    (first : Meets program between cut) (rest : ∀ before a, between before a →
      Meets (next a) (fun fresh b => ends (before ++ fresh) b) fun fresh => cuts (before ++ fresh))
    (hcut : ∀ before, cut before → cuts before) : Meets (program >>= next) ends cuts := by
  intro trace
  obtain ⟨before, hevents, houtcome⟩ := first trace
  have hbind : (program >>= next) trace = match program trace with
      | (some a, reached) => next a reached
      | (none, reached) => (none, reached) := rfl
  rw [hbind]
  rcases hrun : program trace with ⟨result, reached⟩
  rw [hrun] at hevents houtcome
  cases result with
  | none => exact ⟨before, hevents, hcut before houtcome⟩
  | some a =>
    obtain ⟨fresh, hmore, hfinal⟩ := rest before a houtcome reached
    refine ⟨before ++ fresh, ?_, hfinal⟩
    rw [hmore, ← List.append_assoc]
    exact congrArg (· ++ fresh) hevents

theorem meets_bind_operation {ends : List ε → β → Prop}
    (rest : ∀ n a, fails n = false → answer n = some a → Meets (next a) ends cuts)
    (hcuts : ∀ n, fails n = true ∨ answer n = none → cuts []) :
    Meets (operation fails answer >>= next) ends cuts := by
  refine meets_bind (fun fresh a => fresh = [] ∧ Meets (next a) ends cuts)
    (fun fresh => fresh = [] ∧ cuts [])
    (meets_operation (fun n a hfails hanswer => ⟨rfl, rest n a hfails hanswer⟩)
      fun n h => ⟨rfl, hcuts n h⟩) ?_ ?_
  · rintro before a ⟨rfl, hnext⟩
    exact hnext
  · rintro before ⟨rfl, hcut⟩
    exact hcut

theorem meets_bind_answer {answer : Nat → α} {ends : List ε → β → Prop}
    (rest : ∀ n, Meets (next (answer n)) ends cuts) (hcuts : ∀ n, fails n = true → cuts []) :
    Meets (operation fails (fun n => some (answer n)) >>= next) ends cuts := by
  refine meets_bind_operation (fun n a _ hanswer => ?_) fun n h => ?_
  · cases hanswer
    exact rest n
  · rcases h with h | h
    · exact hcuts n h
    · cases h

theorem meets_bind_record {next : Unit → Attempt ε β} {ends : List ε → β → Prop}
    (rest : Meets (next ()) (fun fresh b => ends (event :: fresh) b)
      fun fresh => cuts (event :: fresh)) :
    Meets (record event >>= next) ends cuts := by
  refine meets_bind (fun fresh _ => fresh = [event]) (fun _ => False) (meets_record rfl) ?_ ?_
  · rintro before a rfl
    exact rest
  · rintro before ⟨⟩

theorem meets_ite {c : Prop} [Decidable c] {other : Attempt ε α}
    (hthen : c → Meets program ends cuts) (helse : ¬ c → Meets other ends cuts) :
    Meets (if c then program else other) ends cuts := by
  split
  · rename_i holds
    exact hthen holds
  · rename_i fails
    exact helse fails

theorem meets_foldlM {turn : β → γ → Attempt ε β} {items : List γ} {start : β}
    (keeps : List γ → List ε → β → Prop) (initial : keeps items [] start)
    (step : ∀ item left before b, keeps (item :: left) before b →
      Meets (turn b item) (fun fresh b' => keeps left (before ++ fresh) b')
        fun fresh => cuts (before ++ fresh)) :
    Meets (items.foldlM turn start) (fun fresh b => keeps [] fresh b) cuts := by
  suffices general : ∀ items before b, keeps items before b →
      Meets (List.foldlM turn b items) (fun fresh b' => keeps [] (before ++ fresh) b')
        fun fresh => cuts (before ++ fresh) from general items [] start initial
  intro items
  induction items with
  | nil =>
    intro before b hkeeps
    rw [List.foldlM_nil]
    exact meets_pure (by rwa [List.append_nil])
  | cons item left ih =>
    intro before b hkeeps
    rw [List.foldlM_cons]
    refine meets_bind _ _ (step item left before b hkeeps) (fun fresh b' hnext => ?_)
      fun fresh hcut => hcut
    exact (ih (before ++ fresh) b' hnext).mono
      (fun more c h => by rwa [← List.append_assoc])
      fun more h => by rwa [← List.append_assoc]

end

end JbChat.Foundation.FailingTrace
