/- source: none
   digest: Lists in which each item follows the one before it. -/

import Mathlib.Data.List.Chain
import Mathlib.Data.List.Nodup
import Mathlib.Data.List.Range
import Mathlib.Order.Basic

set_option autoImplicit false

namespace JbChat.Foundation.Lineage

variable {α κ : Type} {follows : Option α → α → Prop} {prior : Option α} {items more : List α}

/-- The item that the next one has to follow. -/
def lastOf (prior : Option α) (items : List α) : Option α := items.getLast?.or prior

def Descends (follows : Option α → α → Prop) : Option α → List α → Prop
  | _, [] => True
  | prior, item :: items => follows prior item ∧ Descends follows (some item) items

theorem lastOf_cons (item : α) : lastOf prior (item :: items) = lastOf (some item) items := by
  unfold lastOf
  rw [List.getLast?_cons]
  cases items.getLast? <;> rfl

theorem lastOf_append : lastOf prior (items ++ more) = lastOf (lastOf prior items) more := by
  unfold lastOf
  rw [List.getLast?_append, Option.or_assoc]

theorem descends_append : Descends follows prior (items ++ more) ↔
    Descends follows prior items ∧ Descends follows (lastOf prior items) more := by
  induction items generalizing prior with
  | nil => exact (iff_of_eq (true_and _)).symm
  | cons item items ih =>
    rw [lastOf_cons, List.cons_append]
    change follows prior item ∧ _ ↔ (follows prior item ∧ _) ∧ _
    rw [ih, and_assoc]

theorem Descends.imp {other : Option α → α → Prop} (descends : Descends follows prior items)
    (imp : ∀ {previous item}, follows previous item → other previous item) :
    Descends other prior items := by
  induction items generalizing prior with
  | nil => exact trivial
  | cons item items ih => exact ⟨imp descends.1, ih descends.2⟩

theorem Descends.follows_at (descends : Descends follows prior items) {front back : List α} {item : α}
    (h : items = front ++ item :: back) : follows (lastOf prior front) item := by
  rw [h] at descends
  exact (descends_append.mp descends).2.1

theorem Descends.adjacent (descends : Descends follows prior items) {front back : List α} {a b : α}
    (h : items = front ++ a :: b :: back) : follows (some a) b := by
  rw [h] at descends
  exact (descends_append.mp descends).2.2.1

theorem Descends.number_eq {number : α → Nat} (descends : Descends follows none items)
    (first : ∀ item, follows none item → number item = 1)
    (next : ∀ previous item, follows (some previous) item → number item = number previous + 1)
    {front back : List α} {item : α} (h : items = front ++ item :: back) :
    number item = front.length + 1 := by
  induction front using List.reverseRecOn generalizing item back with
  | nil => exact first item (descends.follows_at h)
  | append_singleton front previous ih =>
    have hprevious := @ih (item :: back) previous (by rw [h, List.append_assoc]; rfl)
    rw [next previous item (descends.adjacent (by rw [h, List.append_assoc]; rfl)), hprevious,
      List.length_append, List.length_singleton]

theorem Descends.pairwise {r : α → α → Prop} (descends : Descends follows prior items)
    (trans : ∀ {a b c}, r a b → r b c → r a c)
    (next : ∀ previous item, follows (some previous) item → r previous item) :
    items.Pairwise r := by
  induction items generalizing prior with
  | nil => exact List.Pairwise.nil
  | cons item items ih =>
    obtain ⟨-, rest⟩ := descends
    have later := ih rest
    refine List.pairwise_cons.mpr ⟨?_, later⟩
    cases items with
    | nil => exact fun _ h => absurd h List.not_mem_nil
    | cons second items =>
      have hsecond := next item second rest.1
      intro other hother
      rcases List.mem_cons.mp hother with rfl | hother
      · exact hsecond
      · exact trans hsecond (List.rel_of_pairwise_cons later hother)

/-- Along a list whose places rise, a key is used once exactly when it stands for one place. -/
theorem nodup_map_iff_places {β : Type} [Preorder β] {place : α → β} {key : α → κ}
    (rising : items.Pairwise fun a b => place a < place b) :
    (items.map key).Nodup ↔ ∀ a ∈ items, ∀ b ∈ items, key a = key b → place a = place b := by
  constructor
  · intro nodup a ha b hb hkey
    rw [List.inj_on_of_nodup_map nodup ha hb hkey]
  · intro names
    refine List.pairwise_map.mpr (rising.imp_of_mem fun ha hb hless hkey => ?_)
    exact hless.ne (names _ ha _ hb hkey)

end JbChat.Foundation.Lineage
