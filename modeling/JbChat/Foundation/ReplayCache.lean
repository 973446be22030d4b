/- source: none
   digest: Keys that may be claimed once until they expire, in a cache that drops expired keys. -/

import Mathlib.Order.Lattice

set_option autoImplicit false

namespace JbChat.Foundation.ReplayCache

variable {κ τ : Type} [DecidableEq κ]

/-- The keys in the order of their first claim, each with the time it expires. -/
abbrev Seen (κ τ : Type) := List (κ × τ)

def lookup (key : κ) (seen : Seen κ τ) : Option τ :=
  (seen.find? fun entry => decide (entry.1 = key)).map Prod.snd

/-- A key that is there keeps its place. -/
def put (key : κ) (expiry : τ) (seen : Seen κ τ) : Seen κ τ :=
  if seen.any fun entry => decide (entry.1 = key) then
    seen.map fun entry => if entry.1 = key then (key, expiry) else entry
  else seen ++ [(key, expiry)]

section

variable [LinearOrder τ]

/-- Expired keys are dropped only when the cache has grown past its capacity. -/
def evict (capacity : Nat) (now : τ) (seen : Seen κ τ) : Seen κ τ :=
  if capacity < seen.length then seen.filter fun entry => decide (now < entry.2) else seen

/-- Whether the key was free at `now`, and the cache after the claim. -/
def claim (capacity : Nat) (now : τ) (key : κ) (expiry : τ) (seen : Seen κ τ) :
    Bool × Seen κ τ :=
  let kept := evict capacity now seen
  match lookup key kept with
  | none => (true, put key expiry kept)
  | some held => if now < held then (false, kept) else (true, put key expiry kept)

end

section

variable {seen : Seen κ τ} {key other : κ} {expiry : τ}

theorem lookup_map_of_ne (distinct : other ≠ key) :
    lookup other (seen.map fun entry => if entry.1 = key then (key, expiry) else entry) =
      lookup other seen := by
  unfold lookup
  induction seen with
  | nil => rfl
  | cons entry rest ih =>
    rw [List.map_cons, List.find?_cons, List.find?_cons]
    by_cases same : entry.1 = key
    · have differs : entry.1 ≠ other := fun h => distinct (h.symm.trans same)
      simp only [same, if_true, distinct.symm, decide_false]
      simpa [same ▸ differs] using ih
    · simp only [same, if_false]
      by_cases hit : entry.1 = other
      · simp [hit]
      · simpa [hit] using ih

theorem lookup_map_self (present : seen.any (fun entry => decide (entry.1 = key)) = true) :
    lookup key (seen.map fun entry => if entry.1 = key then (key, expiry) else entry) =
      some expiry := by
  unfold lookup
  induction seen with
  | nil => cases present
  | cons entry rest ih =>
    rw [List.map_cons, List.find?_cons]
    by_cases same : entry.1 = key
    · simp [same]
    · simp only [same, if_false, decide_false]
      exact ih (by simpa [same] using present)

theorem lookup_eq_none (absent : ¬ seen.any (fun entry => decide (entry.1 = key)) = true) :
    lookup key seen = none := by
  unfold lookup
  rw [Option.map_eq_none_iff, List.find?_eq_none]
  intro entry hentry hit
  exact absent (List.any_eq_true.mpr ⟨entry, hentry, hit⟩)

theorem lookup_append_of_ne (distinct : other ≠ key) :
    lookup other (seen ++ [(key, expiry)]) = lookup other seen := by
  unfold lookup
  rw [List.find?_append]
  simp [distinct.symm]

theorem lookup_put_self : lookup key (put key expiry seen) = some expiry := by
  unfold put
  split
  · rename_i present
    exact lookup_map_self present
  · rename_i absent
    have free := lookup_eq_none absent
    unfold lookup at free ⊢
    rw [Option.map_eq_none_iff] at free
    rw [List.find?_append, free]
    simp

theorem lookup_put_of_ne (distinct : other ≠ key) :
    lookup other (put key expiry seen) = lookup other seen := by
  unfold put
  split
  · exact lookup_map_of_ne distinct
  · exact lookup_append_of_ne distinct

end

section

variable [LinearOrder τ] {capacity : Nat} {now : τ} {seen written : Seen κ τ} {key : κ}
  {expiry : τ}

theorem lookup_evict (hlookup : lookup key seen = some expiry) (live : now < expiry) :
    lookup key (evict capacity now seen) = some expiry := by
  unfold evict
  split
  · unfold lookup at hlookup ⊢
    obtain ⟨entry, hfound, rfl⟩ := Option.map_eq_some_iff.mp hlookup
    rw [List.find?_eq_some_iff_append] at hfound
    obtain ⟨hkey, before, after, rfl, hbefore⟩ := hfound
    have survives : ((before ++ entry :: after).filter fun entry => decide (now < entry.2)).find?
        (fun entry => decide (entry.1 = key)) = some entry := by
      rw [List.find?_eq_some_iff_append]
      refine ⟨hkey, before.filter fun entry => decide (now < entry.2),
        after.filter fun entry => decide (now < entry.2), ?_, ?_⟩
      · rw [List.filter_append, List.filter_cons_of_pos]
        exact decide_eq_true live
      · intro earlier hearlier
        exact hbefore earlier (List.mem_filter.mp hearlier).1
    rw [survives]
    rfl
  · exact hlookup

theorem claim_of_lookup {requested : τ} (hlookup : lookup key seen = some expiry)
    (live : now < expiry) :
    claim capacity now key requested seen = (false, evict capacity now seen) := by
  unfold claim
  simp only [lookup_evict hlookup live, live, if_true]

theorem claim_accepted (accepted : claim capacity now key expiry seen = (true, written)) :
    written = put key expiry (evict capacity now seen) := by
  unfold claim at accepted
  dsimp only at accepted
  split at accepted
  · exact (Prod.mk.inj accepted).2.symm
  · split at accepted
    · cases accepted
    · exact (Prod.mk.inj accepted).2.symm

theorem claim_refused (refused : claim capacity now key expiry seen = (false, written)) :
    written = evict capacity now seen := by
  unfold claim at refused
  dsimp only at refused
  split at refused
  · cases refused
  · split at refused
    · exact (Prod.mk.inj refused).2.symm
    · cases refused

end

section

/-- A claim that was accepted. -/
structure Claimed (κ τ : Type) where
  key : κ
  expiry : τ

variable [LinearOrder τ] {capacity : Nat} {now next : τ} {seen written : Seen κ τ} {key : κ}
  {expiry : τ} {past : List (Claimed κ τ)}

/-- Every accepted claim that has not expired at `now` is found with its expiry. -/
def Remembers (past : List (Claimed κ τ)) (now : τ) (seen : Seen κ τ) : Prop :=
  ∀ entry ∈ past, now < entry.expiry → lookup entry.key seen = some entry.expiry

theorem Remembers.nil : Remembers ([] : List (Claimed κ τ)) now seen := by
  intro entry hentry
  cases hentry

theorem Remembers.later (remembered : Remembers past now seen) (order : now ≤ next) :
    Remembers past next seen :=
  fun entry hentry live => remembered entry hentry (lt_of_le_of_lt order live)

theorem Remembers.evict (remembered : Remembers past now seen) :
    Remembers past now (evict capacity now seen) :=
  fun entry hentry live => lookup_evict (remembered entry hentry live) live

theorem Remembers.expired (remembered : Remembers past now seen)
    (accepted : claim capacity now key expiry seen = (true, written))
    {entry : Claimed κ τ} (hentry : entry ∈ past) (same : entry.key = key) :
    entry.expiry ≤ now := by
  by_contra live
  have held := remembered entry hentry (not_le.mp live)
  rw [same] at held
  rw [claim_of_lookup held (not_le.mp live)] at accepted
  cases accepted

theorem Remembers.accept (remembered : Remembers past now seen)
    (accepted : claim capacity now key expiry seen = (true, written)) :
    Remembers (past ++ [⟨key, expiry⟩]) now written := by
  have spent : ∀ {entry : Claimed κ τ}, entry ∈ past → entry.key = key → entry.expiry ≤ now :=
    fun hentry same => remembered.expired accepted hentry same
  obtain rfl := claim_accepted accepted
  intro entry hentry live
  rcases List.mem_append.mp hentry with hpast | hnew
  · have distinct : entry.key ≠ key := fun same => absurd live (not_lt.mpr (spent hpast same))
    exact (lookup_put_of_ne distinct).trans (remembered.evict entry hpast live)
  · obtain rfl := List.mem_singleton.mp hnew
    exact lookup_put_self

theorem Remembers.refuse (remembered : Remembers past now seen)
    (refused : claim capacity now key expiry seen = (false, written)) :
    Remembers past now written := by
  obtain rfl := claim_refused refused
  exact remembered.evict

end

end JbChat.Foundation.ReplayCache
