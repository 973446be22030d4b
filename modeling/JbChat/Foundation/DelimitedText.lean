/- source: none
   digest: Texts that are told apart in front of whatever may follow them, and lists of them. -/

import Mathlib.Data.Set.Basic

/-!
A text of a family is read back from a longer one as soon as what follows it starts with a
symbol that stops it. Texts joined by one stop and closed by another are read back one by one.
-/

set_option autoImplicit false

namespace JbChat.Foundation.DelimitedText

variable {α : Type} {stop : α → Prop}

section

variable (stop)

/-- Nothing follows, or a symbol that stops a text. -/
def Stops (rest : List α) : Prop := ∀ symbol, rest.head? = some symbol → stop symbol

/-- The text is told apart from those of the family. -/
def Delimited (family : Set (List α)) (text : List α) : Prop :=
  ∀ other ∈ family, ∀ rest rest' : List α, Stops stop rest → Stops stop rest' →
    text ++ rest = other ++ rest' → text = other ∧ rest = rest'

def Opens (family : Set (List α)) : Prop :=
  ∀ text ∈ family, ∃ first later, text = first :: later ∧ ¬ stop first

variable {stop}

theorem Stops.cons {symbol : α} (h : stop symbol) (rest : List α) : Stops stop (symbol :: rest) :=
  fun _ heq => Option.some.inj heq ▸ h

end

section

variable {family : Set (List α)} {sep close : α}

/-- What stands behind the first of some texts that are joined and closed. -/
def behind (sep close : α) (later : List (List α)) (rest : List α) : List α :=
  match later with
  | [] => close :: rest
  | next :: others => sep :: ([sep].intercalate (next :: others) ++ close :: rest)

theorem intercalate_cons_append (first : List α) (later : List (List α)) (rest : List α) :
    [sep].intercalate (first :: later) ++ close :: rest =
      first ++ behind sep close later rest := by
  cases later with
  | nil => rw [List.intercalate_singleton, behind]
  | cons next others =>
    rw [List.intercalate_cons_cons, behind, List.append_assoc, List.append_assoc]
    rfl

theorem stops_behind (hsep : stop sep) (hclose : stop close) (later : List (List α))
    (rest : List α) : Stops stop (behind sep close later rest) := by
  cases later with
  | nil => exact .cons hclose rest
  | cons next others => exact .cons hsep _

theorem close_ne_intercalate (opens : Opens stop family) (hclose : stop close)
    {first : List α} {later : List (List α)} (hfirst : first ∈ family) (rest rest' : List α) :
    close :: rest ≠ [sep].intercalate (first :: later) ++ close :: rest' := by
  obtain ⟨symbol, remaining, rfl, free⟩ := opens first hfirst
  rw [intercalate_cons_append]
  intro h
  obtain ⟨rfl, -⟩ := List.cons.inj h
  exact free hclose

theorem intercalate_inj (opens : Opens stop family) (hsep : stop sep) (hclose : stop close)
    (differ : sep ≠ close) {texts others : List (List α)}
    (htexts : ∀ text ∈ texts, text ∈ family ∧ Delimited stop family text)
    (hothers : ∀ text ∈ others, text ∈ family) {rest rest' : List α}
    (h : [sep].intercalate texts ++ close :: rest = [sep].intercalate others ++ close :: rest') :
    texts = others ∧ rest = rest' := by
  induction texts generalizing others with
  | nil =>
    cases others with
    | nil => exact ⟨rfl, (List.cons.inj h).2⟩
    | cons other others =>
      exact absurd h (close_ne_intercalate opens hclose (hothers other List.mem_cons_self) _ _)
  | cons text texts ih =>
    cases others with
    | nil =>
      have hmem := (htexts text List.mem_cons_self).1
      exact absurd h.symm (close_ne_intercalate opens hclose hmem _ _)
    | cons other others =>
      rw [intercalate_cons_append, intercalate_cons_append] at h
      obtain ⟨rfl, hbehind⟩ := (htexts text List.mem_cons_self).2 other
        (hothers other List.mem_cons_self) _ _ (stops_behind hsep hclose texts rest)
        (stops_behind hsep hclose others rest') h
      cases texts with
      | nil =>
        cases others with
        | nil => exact ⟨rfl, (List.cons.inj hbehind).2⟩
        | cons next later => exact absurd (List.cons.inj hbehind).1.symm differ
      | cons next later =>
        cases others with
        | nil => exact absurd (List.cons.inj hbehind).1 differ
        | cons next' later' =>
          obtain ⟨hsame, hrest⟩ := ih
            (fun t ht => htexts t (List.mem_cons_of_mem _ ht))
            (fun t ht => hothers t (List.mem_cons_of_mem _ ht)) (List.cons.inj hbehind).2
          exact ⟨by rw [hsame], hrest⟩

end

section

variable {β : Type} {code : β → List α} {close : α}

/-- The first code word of a text is known, whatever stands behind it. -/
def Unambiguous (code : β → List α) : Prop :=
  ∀ a b : β, ∀ rest rest' : List α, code a ++ rest = code b ++ rest' → a = b

theorem unambiguous_of_read (read : List α → Option β)
    (reads : ∀ a rest, read (code a ++ rest) = some a) : Unambiguous code := by
  intro a b rest rest' h
  have hread := reads a rest
  rw [h, reads b rest'] at hread
  exact (Option.some.inj hread).symm

theorem flatMap_inj (unambiguous : Unambiguous code)
    (starts : ∀ a, ∃ first later, code a = first :: later ∧ first ≠ close) {xs ys : List β}
    {rest rest' : List α}
    (h : xs.flatMap code ++ close :: rest = ys.flatMap code ++ close :: rest') :
    xs = ys ∧ rest = rest' := by
  have closed : ∀ a : β, ∀ zs : List β, ∀ r r' : List α,
      close :: r ≠ (a :: zs).flatMap code ++ close :: r' := by
    intro a zs r r' heq
    obtain ⟨first, later, hcode, hfirst⟩ := starts a
    rw [List.flatMap_cons, hcode] at heq
    exact hfirst (List.cons.inj heq).1.symm
  induction xs generalizing ys with
  | nil =>
    cases ys with
    | nil => exact ⟨rfl, (List.cons.inj h).2⟩
    | cons y ys => exact absurd h (closed y ys rest rest')
  | cons x xs ih =>
    cases ys with
    | nil => exact absurd h.symm (closed x xs rest' rest)
    | cons y ys =>
      rw [List.flatMap_cons, List.flatMap_cons, List.append_assoc, List.append_assoc] at h
      obtain rfl := unambiguous x y _ _ h
      obtain ⟨rfl, hrest⟩ := ih (List.append_cancel_left h)
      exact ⟨rfl, hrest⟩

end

end JbChat.Foundation.DelimitedText
