/- source: none
   digest: Computations that record every byte string they hash, and collisions among them. -/

import Mathlib.Data.List.Basic
import Mathlib.Tactic

set_option autoImplicit false

namespace JbChat.Foundation.HashTrace

abbrev Bytes := List UInt8

instance : LawfulBEq Bytes := inferInstance

structure HashFunction where
  digest : Bytes → Bytes
  length_digest : ∀ input, (digest input).length = 32

/-- A value together with the byte strings hashed to obtain it. -/
@[ext] structure Traced (α : Type) where
  value : α
  inputs : List Bytes

namespace Traced

variable {α β : Type}

instance : Monad Traced where
  pure a := ⟨a, []⟩
  bind x f := ⟨(f x.value).value, x.inputs ++ (f x.value).inputs⟩

instance : LawfulMonad Traced := LawfulMonad.mk' Traced
  (fun x => congrArg (Traced.mk x.value) (List.append_nil x.inputs))
  (fun _ _ => rfl)
  (fun x f g => congrArg (Traced.mk (g (f x.value).value).value)
    (List.append_assoc x.inputs (f x.value).inputs (g (f x.value).value).inputs))

/-- Hash one byte string and record it. -/
def hash (H : HashFunction) (input : Bytes) : Traced Bytes := ⟨H.digest input, [input]⟩

@[simp] theorem pure_value (a : α) : (pure a : Traced α).value = a := rfl
@[simp] theorem pure_inputs (a : α) : (pure a : Traced α).inputs = [] := rfl
@[simp] theorem bind_value (x : Traced α) (f : α → Traced β) :
    (x >>= f).value = (f x.value).value := rfl
@[simp] theorem bind_inputs (x : Traced α) (f : α → Traced β) :
    (x >>= f).inputs = x.inputs ++ (f x.value).inputs := rfl
@[simp] theorem map_value (f : α → β) (x : Traced α) : (f <$> x).value = f x.value := rfl
@[simp] theorem map_inputs (f : α → β) (x : Traced α) : (f <$> x).inputs = x.inputs :=
  List.append_nil x.inputs
@[simp] theorem hash_value (H : HashFunction) (input : Bytes) :
    (hash H input).value = H.digest input := rfl
@[simp] theorem hash_inputs (H : HashFunction) (input : Bytes) :
    (hash H input).inputs = [input] := rfl

end Traced

/-- Two different recorded inputs with one hash value. -/
def Collision (H : HashFunction) (inputs : List Bytes) : Prop :=
  ∃ a ∈ inputs, ∃ b ∈ inputs, a ≠ b ∧ H.digest a = H.digest b

instance (H : HashFunction) (inputs : List Bytes) : Decidable (Collision H inputs) :=
  inferInstanceAs (Decidable (∃ a ∈ inputs, ∃ b ∈ inputs, a ≠ b ∧ H.digest a = H.digest b))

theorem Collision.mono {H : HashFunction} {xs ys : List Bytes} (sub : xs ⊆ ys)
    (h : Collision H xs) : Collision H ys := by
  obtain ⟨a, ha, b, hb, hne, heq⟩ := h
  exact ⟨a, sub ha, b, sub hb, hne, heq⟩

theorem input_eq_of_digest_eq {H : HashFunction} {inputs : List Bytes}
    (safe : ¬ Collision H inputs) {a b : Bytes} (ha : a ∈ inputs) (hb : b ∈ inputs)
    (heq : H.digest a = H.digest b) : a = b := by
  by_contra hne
  exact safe ⟨a, ha, b, hb, hne, heq⟩

end JbChat.Foundation.HashTrace
