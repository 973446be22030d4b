/- source: none
   digest: Programs that wait for answers, run alone or many at once over shared state. -/

import JbChat.Foundation.GuardedRun

/-!
A program ends, rejects, or awaits the answer to an operation. A handler answers an operation from
the shared state and from a choice of the environment. A pool holds programs that take turns at
their awaits; a program alone takes all the turns.
-/

set_option autoImplicit false

namespace JbChat.Foundation.Await

inductive Program (Op : Type) (Answer : Op → Type) (ε α : Type) where
  | done (result : α)
  | reject (error : ε)
  | await (op : Op) (next : Answer op → Program Op Answer ε α)

namespace Program

variable {Op : Type} {Answer : Op → Type} {ε α β : Type}

def bind : Program Op Answer ε α → (α → Program Op Answer ε β) → Program Op Answer ε β
  | .done result, rest => rest result
  | .reject error, _ => .reject error
  | .await op next, rest => .await op fun answer => (next answer).bind rest

instance : Monad (Program Op Answer ε) where
  pure := .done
  bind := .bind

@[simp]
theorem pure_eq (result : α) : (pure result : Program Op Answer ε α) = .done result := rfl

@[simp]
theorem done_bind (result : α) (rest : α → Program Op Answer ε β) :
    Program.done result >>= rest = rest result := rfl

@[simp]
theorem reject_bind (error : ε) (rest : α → Program Op Answer ε β) :
    (Program.reject error : Program Op Answer ε α) >>= rest = .reject error := rfl

@[simp]
theorem await_bind (op : Op) (next : Answer op → Program Op Answer ε α)
    (rest : α → Program Op Answer ε β) :
    Program.await op next >>= rest = .await op fun answer => next answer >>= rest := rfl

end Program

open Program

variable {Op : Type} {Answer : Op → Type} {ε α β σ ξ : Type}

section

variable (handle : (op : Op) → ξ → σ → Answer op × σ) (guard : (op : Op) → ξ → σ → Prop)

/-- The program alone, with the choices of the environment in their order. -/
def solo : Program Op Answer ε α → (Nat → ξ) → σ → Except ε α × σ
  | .done result, _, state => (.ok result, state)
  | .reject error, _, state => (.error error, state)
  | .await op next, choices, state =>
    let (answer, written) := handle op (choices 0) state
    solo (next answer) (fun n => choices (n + 1)) written

def Allowed : Program Op Answer ε α → (Nat → ξ) → σ → Prop
  | .done _, _, _ => True
  | .reject _, _, _ => True
  | .await op next, choices, state => guard op (choices 0) state ∧
      Allowed (next (handle op (choices 0) state).1) (fun n => choices (n + 1))
        (handle op (choices 0) state).2

instance Allowed.decide [∀ op choice state, Decidable (guard op choice state)] :
    (program : Program Op Answer ε α) → (choices : Nat → ξ) → (state : σ) →
      Decidable (Allowed handle guard program choices state)
  | .done _, _, _ => .isTrue trivial
  | .reject _, _, _ => .isTrue trivial
  | .await op next, choices, state =>
    let _ := Allowed.decide (next (handle op (choices 0) state).1) (fun n => choices (n + 1))
      (handle op (choices 0) state).2
    inferInstanceAs (Decidable (_ ∧ _))

/-- Whatever allowed choices are made, the program ends in the postcondition. -/
def Safe (post : Except ε α → σ → Prop) : Program Op Answer ε α → σ → Prop
  | .done result, state => post (.ok result) state
  | .reject error, state => post (.error error) state
  | .await op next, state => ∀ choice, guard op choice state →
      Safe post (next (handle op choice state).1) (handle op choice state).2

variable {handle guard}

theorem solo_await (op : Op) (next : Answer op → Program Op Answer ε α) (choices : Nat → ξ)
    (state : σ) :
    solo handle (.await op next) choices state =
      solo handle (next (handle op (choices 0) state).1) (fun n => choices (n + 1))
        (handle op (choices 0) state).2 := rfl

theorem safe_solo {post : Except ε α → σ → Prop} {program : Program Op Answer ε α}
    {choices : Nat → ξ} {state : σ} (safe : Safe handle guard post program state)
    (allowed : Allowed handle guard program choices state) :
    post (solo handle program choices state).1 (solo handle program choices state).2 := by
  induction program generalizing choices state with
  | done result => exact safe
  | reject error => exact safe
  | await op next ih => exact ih _ (safe (choices 0) allowed.1) allowed.2

theorem safe_bind {post : Except ε β → σ → Prop} {program : Program Op Answer ε α}
    {rest : α → Program Op Answer ε β} {state : σ}
    (safe : Safe handle guard (fun outcome reached => match outcome with
      | .ok result => Safe handle guard post (rest result) reached
      | .error error => post (.error error) reached) program state) :
    Safe handle guard post (program >>= rest) state := by
  induction program generalizing state with
  | done result => exact safe
  | reject error => exact safe
  | await op next ih => exact fun choice allowed => ih _ (safe choice allowed)

theorem Safe.mono {post weaker : Except ε α → σ → Prop} {program : Program Op Answer ε α}
    {state : σ} (safe : Safe handle guard post program state)
    (weaken : ∀ outcome reached, post outcome reached → weaker outcome reached) :
    Safe handle guard weaker program state := by
  induction program generalizing state with
  | done result => exact weaken _ _ safe
  | reject error => exact weaken _ _ safe
  | await op next ih => exact fun choice allowed => ih _ (safe choice allowed)

end

section

/-- Programs that share a state; they are told apart by their places. -/
structure Pool (Op : Type) (Answer : Op → Type) (ε α σ : Type) where
  shared : σ
  calls : List (Program Op Answer ε α)

inductive Turn (Op : Type) (Answer : Op → Type) (ε α ξ : Type) where
  | start (call : Program Op Answer ε α)
  | resume (index : Nat) (choice : ξ)

variable (handle : Nat → (op : Op) → ξ → σ → Answer op × σ)

/-- One turn: a new program, or the next answer to one that awaits it. -/
def Pool.take : Turn Op Answer ε α ξ → Pool Op Answer ε α σ → Option (Pool Op Answer ε α σ)
  | .start call, pool => some { pool with calls := pool.calls ++ [call] }
  | .resume index choice, pool =>
    match pool.calls[index]? with
    | some (.await op next) =>
      let (answer, written) := handle index op choice pool.shared
      some ⟨written, pool.calls.set index (next answer)⟩
    | _ => none

structure Pool.Holds (Shared : σ → Prop) (Local : Nat → Program Op Answer ε α → σ → Prop)
    (pool : Pool Op Answer ε α σ) : Prop where
  shared : Shared pool.shared
  each : ∀ index call, pool.calls[index]? = some call → Local index call pool.shared

variable {handle} {Shared : σ → Prop} {Local : Nat → Program Op Answer ε α → σ → Prop}

theorem Pool.Holds.start {pool : Pool Op Answer ε α σ} {call : Program Op Answer ε α}
    (holds : pool.Holds Shared Local) (fresh : Local pool.calls.length call pool.shared) :
    Pool.Holds Shared Local { pool with calls := pool.calls ++ [call] } := by
  refine ⟨holds.shared, fun index other hother => ?_⟩
  dsimp only at hother ⊢
  rcases Nat.lt_or_ge index pool.calls.length with hlt | hge
  · rw [List.getElem?_append_left hlt] at hother
    exact holds.each index other hother
  · rw [List.getElem?_append_right hge] at hother
    have hindex : index - pool.calls.length = 0 := by
      have hbound := (List.getElem?_eq_some_iff.mp hother).1
      simp only [List.length_cons, List.length_nil] at hbound
      omega
    rw [hindex, List.getElem?_cons_zero] at hother
    cases hother
    obtain rfl : index = pool.calls.length := by omega
    exact fresh

theorem Pool.Holds.resume {pool : Pool Op Answer ε α σ} {index : Nat} {written : σ}
    {resumed : Program Op Answer ε α} (holds : pool.Holds Shared Local) (shared : Shared written)
    (own : Local index resumed written)
    (others : ∀ other call, other ≠ index → pool.calls[other]? = some call →
      Local other call pool.shared → Local other call written) :
    Pool.Holds Shared Local ⟨written, pool.calls.set index resumed⟩ := by
  refine ⟨shared, fun other call hcall => ?_⟩
  dsimp only at hcall ⊢
  by_cases hsame : index = other
  · subst hsame
    have hbound := (List.getElem?_eq_some_iff.mp hcall).1
    rw [List.length_set] at hbound
    rw [List.getElem?_set_self hbound] at hcall
    cases hcall
    exact own
  · rw [List.getElem?_set_ne hsame] at hcall
    exact others other call (Ne.symm hsame) hcall (holds.each other call hcall)

theorem Pool.take_resume {pool next : Pool Op Answer ε α σ} {index : Nat} {choice : ξ}
    (h : pool.take handle (.resume index choice) = some next) :
    ∃ op rest, pool.calls[index]? = some (.await op rest) ∧
      next = ⟨(handle index op choice pool.shared).2,
        pool.calls.set index (rest (handle index op choice pool.shared).1)⟩ := by
  unfold Pool.take at h
  dsimp only at h
  split at h
  · next op rest hcall => exact ⟨op, rest, hcall, (Option.some.inj h).symm⟩
  · cases h

end

end JbChat.Foundation.Await
