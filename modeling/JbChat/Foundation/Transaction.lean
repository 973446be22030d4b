/- source: none
   digest: Database work that commits when it returns and rolls back when it throws. -/

import Mathlib.Logic.Basic
import Mathlib.Logic.Relation

set_option autoImplicit false

namespace JbChat.Foundation.Transaction

variable {σ ε α β : Type}

/-- Work on a database of type `σ` that may throw. -/
abbrev Tx (σ ε α : Type) := StateT σ (Except ε) α

/-- Every return commits what was written so far; only a throw rolls back. -/
def sqlBegin (tx : Tx σ ε α) (db : σ) : Except ε α × σ :=
  match tx db with
  | .ok (a, written) => (.ok a, written)
  | .error e => (.error e, db)

/-- Throw unless the condition holds. -/
def require (c : Prop) [Decidable c] (e : ε) : Tx σ ε Unit :=
  if c then pure () else throw e

/-- Use the result of a pure computation that may throw. -/
def lift (x : Except ε α) : Tx σ ε α := fun db => x.map fun a => (a, db)

/-- The row of a query that returned exactly one. -/
def onlyRow (rows : List α) : Option α :=
  match rows with
  | [row] => some row
  | _ => none

theorem onlyRow_eq_some {rows : List α} {row : α} : onlyRow rows = some row ↔ rows = [row] := by
  unfold onlyRow
  constructor
  · intro h
    split at h
    · rw [Option.some.inj h]
    · cases h
  · rintro rfl
    rfl

theorem exists_ok {x : Except ε α} (h : x.isOk = true) : ∃ a, x = .ok a := by
  cases x with
  | error e => cases h
  | ok a => exact ⟨a, rfl⟩

theorem ok_of_isOk {x : Except ε Unit} (h : x.isOk = true) : x = .ok () := by
  obtain ⟨_, hx⟩ := exists_ok h
  exact hx

theorem bind_ok {x : Except ε α} {f : α → Except ε β} {b : β} :
    (x >>= f) = .ok b ↔ ∃ a, x = .ok a ∧ f a = .ok b := by
  cases x with
  | error e =>
    constructor
    · intro h
      cases h
    · rintro ⟨a, h, -⟩
      cases h
  | ok a =>
    constructor
    · intro h
      exact ⟨a, rfl, h⟩
    · rintro ⟨a', h, hf⟩
      cases h
      exact hf

theorem except_bind_eq_error {x : Except ε α} {f : α → Except ε β} {e : ε} :
    (x >>= f) = .error e ↔ x = .error e ∨ ∃ a, x = .ok a ∧ f a = .error e := by
  cases x with
  | error e' =>
    constructor
    · intro h
      cases h
      exact Or.inl rfl
    · rintro (h | ⟨a, h, -⟩)
      · cases h
        rfl
      · cases h
  | ok a =>
    constructor
    · intro h
      exact Or.inr ⟨a, rfl, h⟩
    · rintro (h | ⟨a', h, hf⟩)
      · cases h
      · cases h
        exact hf

theorem guard_ok {c : Prop} [Decidable c] {e : ε} {x : Except ε α} {a : α} :
    (if c then .error e else x) = .ok a ↔ ¬ c ∧ x = .ok a := by
  by_cases h : c
  · rw [if_pos h]
    exact ⟨fun hx => (by cases hx), fun hx => absurd h hx.1⟩
  · rw [if_neg h]
    exact ⟨fun hx => ⟨h, hx⟩, fun hx => hx.2⟩

namespace Tx

theorem bind_apply (x : Tx σ ε α) (f : α → Tx σ ε β) (db : σ) :
    (x >>= f) db = match x db with
      | .ok (a, written) => f a written
      | .error e => .error e := by
  change (x db >>= fun p => f p.1 p.2) = _
  cases x db <;> rfl

theorem bind_eq_ok {x : Tx σ ε α} {f : α → Tx σ ε β} {db : σ} {b : β} {final : σ} :
    (x >>= f) db = .ok (b, final) ↔
      ∃ a written, x db = .ok (a, written) ∧ f a written = .ok (b, final) := by
  rw [bind_apply]
  constructor
  · intro h
    split at h
    · exact ⟨_, _, ‹_›, h⟩
    · cases h
  · rintro ⟨a, written, hx, hf⟩
    rw [hx]
    exact hf

theorem pure_eq_ok {a b : α} {db final : σ} :
    (pure a : Tx σ ε α) db = .ok (b, final) ↔ b = a ∧ final = db := by
  change Except.ok (a, db) = .ok (b, final) ↔ _
  rw [Except.ok.injEq, Prod.mk.injEq]
  exact ⟨fun h => ⟨h.1.symm, h.2.symm⟩, fun h => ⟨h.1.symm, h.2.symm⟩⟩

theorem map_eq_ok {x : Tx σ ε α} {f : α → β} {db : σ} {b : β} {final : σ} :
    (f <$> x) db = .ok (b, final) ↔ ∃ a, x db = .ok (a, final) ∧ b = f a := by
  rw [map_eq_pure_bind, bind_eq_ok]
  constructor
  · rintro ⟨a, written, hx, hpure⟩
    obtain ⟨rfl, rfl⟩ := pure_eq_ok.mp hpure
    exact ⟨a, hx, rfl⟩
  · rintro ⟨a, hx, rfl⟩
    exact ⟨a, final, hx, pure_eq_ok.mpr ⟨rfl, rfl⟩⟩

theorem throw_ne_ok {e : ε} {db : σ} {p : α × σ} : (throw e : Tx σ ε α) db ≠ .ok p := by
  intro h
  cases h

theorem modify_eq_ok {f : σ → σ} {u : Unit} {db final : σ} :
    (modify f : Tx σ ε Unit) db = .ok (u, final) ↔ final = f db := by
  change Except.ok ((), f db) = .ok (u, final) ↔ _
  rw [Except.ok.injEq, Prod.mk.injEq]
  exact ⟨fun h => h.2.symm, fun h => ⟨rfl, h.symm⟩⟩

theorem require_eq_ok {c : Prop} [Decidable c] {e : ε} {u : Unit} {db final : σ} :
    (require c e : Tx σ ε Unit) db = .ok (u, final) ↔ c ∧ final = db := by
  unfold require
  by_cases h : c
  · rw [if_pos h, pure_eq_ok]
    exact ⟨fun hp => ⟨h, hp.2⟩, fun hp => ⟨rfl, hp.2⟩⟩
  · rw [if_neg h]
    exact ⟨fun hp => absurd hp throw_ne_ok, fun hp => absurd hp.1 h⟩

theorem lift_eq_ok {x : Except ε α} {a : α} {db final : σ} :
    (lift x : Tx σ ε α) db = .ok (a, final) ↔ x = .ok a ∧ final = db := by
  unfold lift
  cases x with
  | error e =>
    constructor
    · intro h
      cases h
    · rintro ⟨h, -⟩
      cases h
  | ok value =>
    change Except.ok (value, db) = .ok (a, final) ↔ _
    rw [Except.ok.injEq, Prod.mk.injEq, Except.ok.injEq]
    exact ⟨fun h => ⟨h.1, h.2.symm⟩, fun h => ⟨h.1, h.2.symm⟩⟩

@[simp] theorem get_bind (f : σ → Tx σ ε β) (db : σ) : (get >>= f : Tx σ ε β) db = f db db := rfl

@[simp] theorem modify_bind (g : σ → σ) (f : Unit → Tx σ ε β) (db : σ) :
    ((modify g : Tx σ ε Unit) >>= f) db = f () (g db) := rfl

theorem require_bind_eq_ok {c : Prop} [Decidable c] {e : ε} {f : Unit → Tx σ ε β} {db : σ}
    {p : β × σ} : ((require c e : Tx σ ε Unit) >>= f) db = .ok p ↔ c ∧ f () db = .ok p := by
  obtain ⟨b, final⟩ := p
  simp only [bind_eq_ok, require_eq_ok]
  constructor
  · rintro ⟨⟨⟩, written, ⟨hc, rfl⟩, hf⟩
    exact ⟨hc, hf⟩
  · rintro ⟨hc, hf⟩
    exact ⟨(), db, ⟨hc, rfl⟩, hf⟩

theorem lift_bind_eq_ok {x : Except ε α} {f : α → Tx σ ε β} {db : σ} {p : β × σ} :
    ((lift x : Tx σ ε α) >>= f) db = .ok p ↔ ∃ a, x = .ok a ∧ f a db = .ok p := by
  obtain ⟨b, final⟩ := p
  simp only [bind_eq_ok, lift_eq_ok]
  constructor
  · rintro ⟨a, written, ⟨hx, rfl⟩, hf⟩
    exact ⟨a, hx, hf⟩
  · rintro ⟨a, hx, hf⟩
    exact ⟨a, db, ⟨hx, rfl⟩, hf⟩

end Tx

theorem sqlBegin_cases (tx : Tx σ ε α) (db : σ) :
    (∃ a written, tx db = .ok (a, written) ∧ sqlBegin tx db = (.ok a, written)) ∨
      (∃ e, tx db = .error e ∧ sqlBegin tx db = (.error e, db)) := by
  unfold sqlBegin
  cases h : tx db with
  | ok p => exact Or.inl ⟨p.1, p.2, rfl, rfl⟩
  | error e => exact Or.inr ⟨e, rfl, rfl⟩

theorem sqlBegin_keeps {tx : Tx σ ε α} {db : σ} {inv : σ → Prop} (start : inv db)
    (step : ∀ a written, tx db = .ok (a, written) → inv written) : inv (sqlBegin tx db).2 := by
  rcases sqlBegin_cases tx db with ⟨a, written, htx, hrun⟩ | ⟨e, -, hrun⟩
  · rw [hrun]
    exact step a written htx
  · rw [hrun]
    exact start

end JbChat.Foundation.Transaction
