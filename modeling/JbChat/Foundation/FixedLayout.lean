/- source: none
   digest: Texts of one layout of digits and separators are ordered as the numbers they write. -/

import Mathlib.Data.List.Forall2
import Mathlib.Data.String.Basic
import Mathlib.Tactic.Ring

set_option autoImplicit false

namespace JbChat.Foundation.FixedLayout

/-- A position of a layout: any digit, or one separator. -/
inductive Slot where
  | digit
  | literal (separator : Char)
deriving DecidableEq

def Slot.test : Slot → Char → Bool
  | .digit => Char.isDigit
  | .literal separator => (· == separator)

/-- The text has the layout. -/
def Fits (layout : List Slot) (chars : List Char) : Prop :=
  List.Forall₂ (fun slot c => slot.test c = true) layout chars

def digits (layout : List Slot) : Nat := layout.count .digit

def number : List Slot → List Char → Nat
  | .digit :: layout, c :: chars => (c.toNat - 48) * 10 ^ digits layout + number layout chars
  | .literal _ :: layout, _ :: chars => number layout chars
  | _, _ => 0

/-- The text of the layout that writes the last digits of the number. -/
def write : List Slot → Nat → List Char
  | [], _ => []
  | .digit :: layout, n => (n / 10 ^ digits layout % 10).digitChar :: write layout n
  | .literal separator :: layout, n => separator :: write layout n

/-- A number of some digits with the separator after it, in front of a layout. -/
def field (n : Nat) (separator : Char) (layout : List Slot) : List Slot :=
  List.replicate n .digit ++ .literal separator :: layout

variable {layout : List Slot} {chars others : List Char}

theorem digits_digit : digits (.digit :: layout) = digits layout + 1 := by
  simp [digits]

theorem digits_literal {separator : Char} :
    digits (.literal separator :: layout) = digits layout := by
  simp [digits]

private theorem digit_bounds {c : Char} (h : c.isDigit = true) :
    48 ≤ c.toNat ∧ c.toNat ≤ 57 := by
  simp only [Char.isDigit, Bool.and_eq_true, decide_eq_true_eq] at h
  exact h

theorem number_lt (fits : Fits layout chars) : number layout chars < 10 ^ digits layout := by
  induction fits with
  | nil => decide
  | @cons slot c layout chars hslot _ ih =>
    cases slot with
    | literal separator =>
      rw [digits_literal]
      exact ih
    | digit =>
      have bounds := digit_bounds hslot
      have value : c.toNat - 48 ≤ 9 := by omega
      calc number (.digit :: layout) (c :: chars)
          = (c.toNat - 48) * 10 ^ digits layout + number layout chars := rfl
        _ < 9 * 10 ^ digits layout + 10 ^ digits layout :=
            Nat.add_lt_add_of_le_of_lt (Nat.mul_le_mul_right _ value) ih
        _ = 10 ^ digits (.digit :: layout) := by
            rw [digits_digit, pow_succ]
            ring

theorem lt_iff_number_lt (fits : Fits layout chars) (fits' : Fits layout others) :
    chars < others ↔ number layout chars < number layout others := by
  induction fits generalizing others with
  | nil =>
    cases fits'
    simp
  | @cons slot c layout chars hslot rest ih =>
    cases fits' with
    | @cons _ d _ others hslot' rest' =>
      rw [List.cons_lt_cons_iff]
      cases slot with
      | literal separator =>
        have same : c = d := (eq_of_beq hslot).trans (eq_of_beq hslot').symm
        simp only [same, lt_self_iff_false, true_and, false_or]
        exact ih rest'
      | digit =>
        have bounds := digit_bounds hslot
        have bounds' := digit_bounds hslot'
        have below := number_lt rest
        have below' := number_lt rest'
        have order : c < d ↔ c.toNat < d.toNat := Iff.rfl
        have same : c = d ↔ c.toNat = d.toNat := Char.toNat_inj.symm
        simp only [number]
        rw [order, same, ih rest']
        constructor
        · rintro (h | ⟨h, hrest⟩)
          · have step : c.toNat - 48 + 1 ≤ d.toNat - 48 := by omega
            have scaled := Nat.mul_le_mul_right (10 ^ digits layout) step
            rw [Nat.add_mul, one_mul] at scaled
            omega
          · rw [h]
            omega
        · intro h
          rcases Nat.lt_trichotomy c.toNat d.toNat with hlt | heq | hgt
          · exact .inl hlt
          · rw [heq] at h
            exact .inr ⟨heq, by omega⟩
          · have step : d.toNat - 48 + 1 ≤ c.toNat - 48 := by omega
            have scaled := Nat.mul_le_mul_right (10 ^ digits layout) step
            rw [Nat.add_mul, one_mul] at scaled
            omega

theorem number_nil : number layout [] = 0 := by
  cases layout with
  | nil => rfl
  | cons slot layout => cases slot <;> rfl

private theorem number_replicate (n : Nat) (h : n ≤ chars.length) :
    number (List.replicate n .digit ++ layout) chars =
      Nat.ofDigitChars 10 (chars.take n) 0 * 10 ^ digits layout +
        number layout (chars.drop n) := by
  induction n generalizing chars with
  | zero => simp [Nat.ofDigitChars_nil]
  | succ n ih =>
    cases chars with
    | nil => cases h
    | cons c chars =>
      have hshort : n ≤ chars.length := Nat.le_of_succ_le_succ h
      have hwidth : digits (List.replicate n .digit ++ layout) = n + digits layout := by
        simp [digits]
      have hvalue : Nat.ofDigitChars 10 (c :: chars.take n) 0 =
          10 ^ n * (c.toNat - 48) + Nat.ofDigitChars 10 (chars.take n) 0 := by
        have hlength : (chars.take n).length = n := by simp [hshort]
        rw [Nat.ofDigitChars_cons]
        nth_rewrite 1 [Nat.ofDigitChars_eq_ofDigitChars_zero]
        rw [hlength]
        simp
      rw [List.replicate_succ, List.cons_append, number, ih hshort, hwidth, List.take_succ_cons,
        List.drop_succ_cons, hvalue, pow_add]
      ring

theorem digits_field (n : Nat) (separator : Char) :
    digits (field n separator layout) = n + digits layout := by
  simp [digits, field]

theorem number_field (n : Nat) (separator : Char) (h : n ≤ chars.length) :
    number (field n separator layout) chars =
      Nat.ofDigitChars 10 (chars.take n) 0 * 10 ^ digits layout +
        number layout (chars.drop (n + 1)) := by
  have hrest : number (.literal separator :: layout) (chars.drop n) =
      number layout (chars.drop (n + 1)) := by
    rw [← List.drop_drop]
    cases chars.drop n with
    | nil => rw [List.drop_nil, number_nil, number_nil]
    | cons c chars => rfl
  rw [field, number_replicate n h, digits_literal, hrest]

theorem ofDigitChars_lt (fits : Fits layout chars) (start n : Nat)
    (run : (layout.drop start).take n = List.replicate n .digit) :
    Nat.ofDigitChars 10 ((chars.drop start).take n) 0 < 10 ^ n := by
  have part : Fits (List.replicate n .digit) ((chars.drop start).take n) := by
    rw [← run]
    exact List.forall₂_take n (List.forall₂_drop start fits)
  have hlength : ((chars.drop start).take n).length = n := by
    rw [← List.Forall₂.length_eq part, List.length_replicate]
  have hwidth : digits (List.replicate n .digit) = n := by simp [digits]
  have value := @number_replicate [] _ n hlength.ge
  have nothing : number [] (((chars.drop start).take n).drop n) = 0 := rfl
  rw [List.append_nil, List.take_of_length_le hlength.le, nothing] at value
  have below := number_lt part
  rw [value, hwidth] at below
  simpa [digits] using below

theorem fits_write (layout : List Slot) (n : Nat) : Fits layout (write layout n) := by
  induction layout with
  | nil => exact .nil
  | cons slot layout ih =>
    cases slot with
    | literal separator => exact .cons (beq_self_eq_true separator) ih
    | digit =>
      have small : n / 10 ^ digits layout % 10 < 10 := Nat.mod_lt _ (by decide)
      refine .cons ?_ ih
      simp [Slot.test, Nat.isDigit_digitChar, small]

theorem number_write (layout : List Slot) (n : Nat) :
    number layout (write layout n) = n % 10 ^ digits layout := by
  induction layout with
  | nil => simp [number, digits, Nat.mod_one]
  | cons slot layout ih =>
    cases slot with
    | literal separator =>
      rw [digits_literal]
      exact ih
    | digit =>
      have small : n / 10 ^ digits layout % 10 < 10 := Nat.mod_lt _ (by decide)
      rw [digits_digit, Nat.pow_succ, Nat.mod_mul, write, number, ih,
        Nat.toNat_digitChar_sub_48_of_lt_ten small]
      ring

end JbChat.Foundation.FixedLayout
