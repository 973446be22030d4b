/- source: none
   digest: Fields framed by a big-endian 32-bit length can be read back in one way only. -/

import JbChat.Foundation.HashTrace

set_option autoImplicit false

namespace JbChat.Foundation.LengthPrefix

open HashTrace

/-- The four bytes of a 32-bit number, most significant first. -/
def u32be (n : Nat) : Bytes :=
  [UInt8.ofNat (n / 2 ^ 24), UInt8.ofNat (n / 2 ^ 16), UInt8.ofNat (n / 2 ^ 8), UInt8.ofNat n]

/-- A field behind its length. -/
def lengthPrefix (bytes : Bytes) : Bytes := u32be bytes.length ++ bytes

/-- Each field behind its own length. -/
def lengthPrefixed (fields : List Bytes) : Bytes := fields.flatMap lengthPrefix

/-- Short enough for a 32-bit length. -/
def Sized (bytes : Bytes) : Prop := bytes.length < 2 ^ 32

theorem u32be_injective {m n : Nat} (hm : m < 2 ^ 32) (hn : n < 2 ^ 32)
    (h : u32be m = u32be n) : m = n := by
  simp only [u32be, List.cons.injEq, and_true] at h
  obtain ⟨h3, h2, h1, h0⟩ := h
  have e3 := congrArg UInt8.toNat h3
  have e2 := congrArg UInt8.toNat h2
  have e1 := congrArg UInt8.toNat h1
  have e0 := congrArg UInt8.toNat h0
  simp only [UInt8.toNat_ofNat'] at e3 e2 e1 e0
  omega

theorem lengthPrefix_append_injective {a b x y : Bytes} (ha : Sized a) (hb : Sized b)
    (h : lengthPrefix a ++ x = lengthPrefix b ++ y) : a = b ∧ x = y := by
  simp only [lengthPrefix, List.append_assoc] at h
  obtain ⟨hlen, hrest⟩ := List.append_inj h rfl
  have heq := u32be_injective ha hb hlen
  exact List.append_inj hrest heq

theorem lengthPrefixed_injective {xs ys : List Bytes} (hx : ∀ x ∈ xs, Sized x)
    (hy : ∀ y ∈ ys, Sized y) (h : lengthPrefixed xs = lengthPrefixed ys) : xs = ys := by
  induction xs generalizing ys with
  | nil =>
    cases ys with
    | nil => rfl
    | cons y ys => simp [lengthPrefixed, lengthPrefix, u32be] at h
  | cons x xs ih =>
    cases ys with
    | nil => simp [lengthPrefixed, lengthPrefix, u32be] at h
    | cons y ys =>
      simp only [lengthPrefixed, List.flatMap_cons] at h
      obtain ⟨hhead, htail⟩ := lengthPrefix_append_injective (hx x (by simp)) (hy y (by simp)) h
      have hrest := ih (fun z hz => hx z (List.mem_cons_of_mem _ hz))
        (fun z hz => hy z (List.mem_cons_of_mem _ hz)) htail
      rw [hhead, hrest]

theorem length_flatMap_fields {ρ : Type} {fields : ρ → List Bytes} {width : Nat}
    (widths : ∀ row, (fields row).length = width) (rows : List ρ) :
    (rows.flatMap fields).length = rows.length * width := by
  induction rows with
  | nil => rw [List.flatMap_nil, List.length_nil, List.length_nil, Nat.zero_mul]
  | cons row rows ih =>
    rw [List.flatMap_cons, List.length_append, widths, ih, List.length_cons]
    ring

theorem flatMap_fields_injective {ρ : Type} {fields : ρ → List Bytes} {width : Nat}
    (widths : ∀ row, (fields row).length = width) {xs ys : List ρ}
    (injective : ∀ x ∈ xs, ∀ y ∈ ys, fields x = fields y → x = y)
    (same : xs.length = ys.length) (h : xs.flatMap fields = ys.flatMap fields) : xs = ys := by
  induction xs generalizing ys with
  | nil => exact (List.length_eq_zero_iff.mp same.symm).symm
  | cons x xs ih =>
    cases ys with
    | nil => cases same
    | cons y ys =>
      simp only [List.flatMap_cons] at h
      obtain ⟨hhead, htail⟩ := List.append_inj h ((widths x).trans (widths y).symm)
      have hx := injective x (by simp) y (by simp) hhead
      have hrest := ih (fun x hx y hy => injective x (by simp [hx]) y (by simp [hy]))
        (Nat.succ.inj same) htail
      rw [hx, hrest]

theorem counted_rows_injective {ρ : Type} {fields : ρ → List Bytes} {width : Nat}
    (widths : ∀ row, (fields row).length = width) {count : Nat → Bytes}
    (counts : ∀ m n, count m = count n → m = n) {xs ys : List ρ} {rest more : List Bytes}
    (injective : ∀ x ∈ xs, ∀ y ∈ ys, fields x = fields y → x = y)
    (h : count xs.length :: xs.flatMap fields ++ rest =
      count ys.length :: ys.flatMap fields ++ more) : xs = ys ∧ rest = more := by
  rw [List.cons_append, List.cons_append, List.cons.injEq] at h
  have same := counts _ _ h.1
  have lengths : (xs.flatMap fields).length = (ys.flatMap fields).length := by
    rw [length_flatMap_fields widths, length_flatMap_fields widths, same]
  obtain ⟨hrows, hrest⟩ := List.append_inj h.2 lengths
  exact ⟨flatMap_fields_injective widths injective same hrows, hrest⟩

theorem opened_rows_injective {ρ : Type} {fields : ρ → List Bytes} {width : Nat}
    (widths : ∀ row, (fields row).length = width) {Opens : Bytes → Prop} {xs ys : List ρ}
    (opens : ∀ row ∈ xs ++ ys, ∃ first tail, fields row = first :: tail ∧ Opens first)
    (injective : ∀ x ∈ xs, ∀ y ∈ ys, fields x = fields y → x = y) {stop halt : Bytes}
    {rest more : List Bytes} (hstop : ¬ Opens stop) (hhalt : ¬ Opens halt)
    (h : xs.flatMap fields ++ stop :: rest = ys.flatMap fields ++ halt :: more) :
    xs = ys ∧ stop :: rest = halt :: more := by
  induction xs generalizing ys with
  | nil =>
    cases ys with
    | nil => exact ⟨rfl, h⟩
    | cons y ys =>
      obtain ⟨first, tail, hfields, hopens⟩ := opens y (by simp)
      rw [List.flatMap_nil, List.flatMap_cons, hfields] at h
      obtain rfl := (List.cons.inj h).1
      exact absurd hopens hstop
  | cons x xs ih =>
    cases ys with
    | nil =>
      obtain ⟨first, tail, hfields, hopens⟩ := opens x (by simp)
      rw [List.flatMap_nil, List.flatMap_cons, hfields] at h
      obtain rfl := (List.cons.inj h).1
      exact absurd hopens hhalt
    | cons y ys =>
      rw [List.flatMap_cons, List.flatMap_cons, List.append_assoc, List.append_assoc] at h
      obtain ⟨hhead, htail⟩ := List.append_inj h ((widths x).trans (widths y).symm)
      have hx := injective x (by simp) y (by simp) hhead
      obtain ⟨hrows, hrest⟩ := ih (fun row hrow => opens row (by
        rw [List.mem_append] at hrow
        rcases hrow with hrow | hrow <;> simp [hrow]))
        (fun x hx y hy => injective x (by simp [hx]) y (by simp [hy])) htail
      rw [hx, hrows]
      exact ⟨rfl, hrest⟩

end JbChat.Foundation.LengthPrefix
