/- source: none
   digest: What a program does between its awaits, whatever the others do in them. -/

import JbChat.Foundation.Await

/-!
While a program awaits, the others change the shared state as its rely allows. If each turn of a
program changes the state as the relies of the others allow, the programs of a pool can be looked at
one by one.
-/

set_option autoImplicit false

namespace JbChat.Foundation.Interference

open Await

variable {Op : Type} {Answer : Op → Type} {ε α β σ ξ : Type}

section

variable (handle : (op : Op) → ξ → σ → Answer op × σ) (guard turn : (op : Op) → ξ → σ → Prop)
  (rely : σ → σ → Prop)

/-- Each allowed turn of the program is as it should be, and it ends in the postcondition. -/
def Withstands (post : σ → Prop) : Program Op Answer ε α → σ → Prop
  | .done _, state => ∀ later, rely state later → post later
  | .reject _, state => ∀ later, rely state later → post later
  | .await op next, state => ∀ later, rely state later → ∀ choice, guard op choice later →
      turn op choice later ∧
        Withstands post (next (handle op choice later).1) (handle op choice later).2

variable {handle guard turn rely} {post : σ → Prop} {program : Program Op Answer ε α}
  {state later : σ}

theorem Withstands.interfere (withstands : Withstands handle guard turn rely post program state)
    (trans : ∀ {first second third : σ}, rely first second → rely second third → rely first third)
    (interference : rely state later) :
    Withstands handle guard turn rely post program later := by
  cases program with
  | done result | reject error | await op next =>
      exact fun last h => withstands last (trans interference h)

theorem Withstands.ignore {result : β}
    (withstands : Withstands handle guard turn rely post program state) :
    Withstands handle guard turn rely post (program >>= fun _ => .done result) state := by
  induction program generalizing state with
  | done result => exact withstands
  | reject error => exact withstands
  | await op next ih =>
    exact fun later interference choice allowed =>
      ⟨(withstands later interference choice allowed).1,
        ih _ (withstands later interference choice allowed).2⟩

end

section

variable (handle : Nat → (op : Op) → ξ → σ → Answer op × σ)
  (guard turn : Nat → (op : Op) → ξ → σ → Prop) (rely : Nat → σ → σ → Prop)
  (post : Nat → σ → Prop) {index : Nat} {call : Program Op Answer ε α}

/-- Every program of the pool withstands the others. -/
def Withstood (pool : Pool Op Answer ε α σ) : Prop :=
  ∀ index call, pool.calls[index]? = some call →
    Withstands (handle index) (guard index) (turn index) (rely index) (post index) call pool.shared

variable {handle guard turn rely post} {pool next : Pool Op Answer ε α σ}

theorem Withstood.resume (withstood : Withstood handle guard turn rely post pool)
    (refl : ∀ index state, rely index state state)
    (trans : ∀ {index : Nat} {first second third : σ}, rely index first second →
      rely index second third → rely index first third)
    (disturbs : ∀ {index other : Nat} {op : Op} {choice : ξ} {state : σ}, other ≠ index →
      turn index op choice state → rely other state (handle index op choice state).2) {choice : ξ}
    {op : Op} {rest : Answer op → Program Op Answer ε α}
    (hcall : pool.calls[index]? = some (.await op rest))
    (allowed : guard index op choice pool.shared)
    (h : pool.take handle (.resume index choice) = some next) :
    turn index op choice pool.shared ∧ Withstood handle guard turn rely post next := by
  obtain ⟨op', rest', hcall', rfl⟩ := Pool.take_resume h
  obtain ⟨rfl, hrest⟩ := Program.await.inj (Option.some.inj (hcall.symm.trans hcall'))
  obtain rfl := eq_of_heq hrest
  obtain ⟨hturn, hnext⟩ := withstood index _ hcall pool.shared (refl index _) choice allowed
  refine ⟨hturn, fun other call hother => ?_⟩
  dsimp only at hother ⊢
  by_cases hsame : other = index
  · subst hsame
    have hlt := (List.getElem?_eq_some_iff.mp hcall).1
    rw [List.getElem?_set_self hlt] at hother
    cases hother
    exact hnext
  · rw [List.getElem?_set_ne (Ne.symm hsame)] at hother
    exact (withstood other call hother).interfere trans (disturbs hsame hturn)

theorem Withstood.start (withstood : Withstood handle guard turn rely post pool)
    (trans : ∀ {index : Nat} {first second third : σ}, rely index first second →
      rely index second third → rely index first third) {begun : σ}
    (interference : ∀ index, index < pool.calls.length → rely index pool.shared begun)
    (fresh : Withstands (handle pool.calls.length) (guard pool.calls.length)
      (turn pool.calls.length) (rely pool.calls.length) (post pool.calls.length) call begun) :
    Withstood handle guard turn rely post ⟨begun, pool.calls ++ [call]⟩ := by
  intro index other hother
  dsimp only at hother ⊢
  rcases Nat.lt_or_ge index pool.calls.length with hlt | hge
  · rw [List.getElem?_append_left hlt] at hother
    exact (withstood index other hother).interfere trans (interference index hlt)
  · rw [List.getElem?_append_right hge, List.getElem?_singleton] at hother
    split_ifs at hother with hzero
    cases hother
    obtain rfl : index = pool.calls.length := by omega
    exact fresh

theorem Withstood.interfere (withstood : Withstood handle guard turn rely post pool)
    (trans : ∀ {index : Nat} {first second third : σ}, rely index first second →
      rely index second third → rely index first third) {later : σ}
    (interference : ∀ index, rely index pool.shared later) :
    Withstood handle guard turn rely post { pool with shared := later } :=
  fun index call hcall => (withstood index call hcall).interfere trans (interference index)

theorem Withstood.ended (withstood : Withstood handle guard turn rely post pool)
    (refl : ∀ index state, rely index state state) (hcall : pool.calls[index]? = some call)
    (hended : ∀ op rest, call ≠ .await op rest) : post index pool.shared := by
  have withstands := withstood index call hcall
  cases call with
  | done result => exact withstands pool.shared (refl index _)
  | reject error => exact withstands pool.shared (refl index _)
  | await op rest => exact absurd rfl (hended op rest)

end

end JbChat.Foundation.Interference
