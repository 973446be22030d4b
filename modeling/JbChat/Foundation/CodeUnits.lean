/- source: none
   digest: The UTF-16 code units of characters and of texts. -/

import Mathlib.Algebra.GroupWithZero.Nat
import Mathlib.Data.String.Basic
import Mathlib.Tactic.SplitIfs

set_option autoImplicit false

namespace JbChat.Foundation.CodeUnits

/-- A character outside the basic plane is a pair of surrogates. -/
def charUnits (c : Char) : List Nat :=
  if c.toNat < 0x10000 then [c.toNat]
  else [0xD800 + (c.toNat - 0x10000) / 0x400, 0xDC00 + (c.toNat - 0x10000) % 0x400]

/-- The `length` of a string: one unit for a character of the basic plane, two above it. -/
def utf16Length (text : String) : Nat :=
  (text.toList.map fun c => if c.toNat < 0x10000 then 1 else 2).sum

def codeUnits (text : String) : List Nat := text.toList.flatMap charUnits

theorem charUnits_of_lt {c : Char} (h : c.toNat < 0x10000) : charUnits c = [c.toNat] := if_pos h

theorem flatMap_charUnits {chars : List Char} (h : ∀ c ∈ chars, c.toNat < 0x10000) :
    chars.flatMap charUnits = chars.map Char.toNat := by
  induction chars with
  | nil => rfl
  | cons c chars ih =>
    obtain ⟨hc, hrest⟩ := List.forall_mem_cons.mp h
    rw [List.flatMap_cons, charUnits_of_lt hc, ih hrest]
    rfl

theorem charUnits_lt {c : Char} {unit : Nat} (h : unit ∈ charUnits c) : unit < 0x10000 := by
  have hvalid : c.toNat < 0xD800 ∨ 0xDFFF < c.toNat ∧ c.toNat < 0x110000 := c.valid
  unfold charUnits at h
  split_ifs at h with hplane
  · obtain rfl := List.mem_singleton.mp h
    exact hplane
  · simp only [List.mem_cons, List.not_mem_nil, or_false] at h
    omega

theorem charUnits_append_inj {c d : Char} {rest rest' : List Nat}
    (h : charUnits c ++ rest = charUnits d ++ rest') : c = d ∧ rest = rest' := by
  have hc : c.toNat < 0xD800 ∨ 0xDFFF < c.toNat ∧ c.toNat < 0x110000 := c.valid
  have hd : d.toNat < 0xD800 ∨ 0xDFFF < d.toNat ∧ d.toNat < 0x110000 := d.valid
  unfold charUnits at h
  split_ifs at h with hlow hother hother
  · simp only [List.singleton_append, List.cons.injEq] at h
    exact ⟨Char.toNat_inj.mp h.1, h.2⟩
  · simp only [List.cons_append, List.cons.injEq] at h
    omega
  · simp only [List.cons_append, List.cons.injEq] at h
    omega
  · simp only [List.cons_append, List.nil_append, List.cons.injEq] at h
    exact ⟨Char.toNat_inj.mp (by omega), h.2.2⟩

theorem codeUnits_inj {a b : String} : codeUnits a = codeUnits b ↔ a = b := by
  refine ⟨fun h => ?_, congrArg codeUnits⟩
  have units : ∀ first second : List Char,
      first.flatMap charUnits = second.flatMap charUnits → first = second := by
    have hne : ∀ c, charUnits c ≠ [] := by
      intro c
      unfold charUnits
      split_ifs <;> exact List.cons_ne_nil _ _
    intro first
    induction first with
    | nil =>
      intro second hsame
      cases second with
      | nil => rfl
      | cons d second => exact absurd (List.append_eq_nil_iff.mp hsame.symm).1 (hne d)
    | cons c first ih =>
      intro second hsame
      cases second with
      | nil => exact absurd (List.append_eq_nil_iff.mp hsame).1 (hne c)
      | cons d second =>
        rw [List.flatMap_cons, List.flatMap_cons] at hsame
        obtain ⟨rfl, hrest⟩ := charUnits_append_inj hsame
        rw [ih second hrest]
  exact String.toList_inj.mp (units a.toList b.toList h)

end JbChat.Foundation.CodeUnits
