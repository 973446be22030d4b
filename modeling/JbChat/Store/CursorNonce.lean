/- source: src/production/storage/cursorNonceAllocator.ts
   digest: Allocators that share one fenced row never hand out the same nonce twice. -/

import JbChat.Foundation.LengthPrefix
import Mathlib.Data.List.Range

/-!
Between two awaits a process runs alone, so a step is what one process or the database does in
one go. A call that finds the range used up starts a refill, or joins the one that is under way.
-/

set_option autoImplicit false

namespace JbChat.Store.CursorNonce

open Foundation.HashTrace Foundation.LengthPrefix

/-- The row of one key in `cursor_nonce_ranges`. -/
structure NonceRangeRow where
  fence : Nat
  highWater : Nat

/-- The upsert of a refill. -/
def refillRow (rangeSize : Nat) : Option NonceRangeRow → NonceRangeRow
  | none => { fence := 1, highWater := rangeSize }
  | some row => { fence := row.fence + 1, highWater := row.highWater + rangeSize }

/-- How far the shared refill promise has come. -/
inductive RefillPhase where
  /-- The statement is on its way to the database. -/
  | sent
  /-- The statement has committed; its row is on the way back. -/
  | executed (row : NonceRangeRow)
  /-- The variables are set; the `finally` handler has still to run. -/
  | stored
  /-- The refill was rejected; the `finally` handler has still to run. -/
  | failed

/-- The variables of one allocator, with the calls that wait for its refill and those whose
refill succeeded and that look at the range again. -/
structure Allocator where
  rangeSize : Nat
  fence : Nat
  next : Nat
  ceiling : Nat
  refilling : Option RefillPhase
  waiting : Nat
  woken : Nat

def defaultRangeSize : Nat := 1024

/-- Creation; a range size that is not a positive safe integer throws. -/
def createPostgresCursorNonceAllocator (rangeSize : Option Nat) : Option Allocator :=
  let rangeSize := rangeSize.getD defaultRangeSize
  if 1 ≤ rangeSize ∧ rangeSize ≤ 2 ^ 53 - 1 then
    some
      { rangeSize := rangeSize
        fence := 0
        next := 0
        ceiling := 0
        refilling := none
        waiting := 0
        woken := 0 }
  else none

/-- The eight bytes of a 64-bit number, most significant first. -/
def u64be (n : Nat) : Bytes := u32be (n / 2 ^ 32) ++ u32be (n % 2 ^ 32)

/-- Fence, cut to 32 bits, then counter. -/
def nonceBytes (fence counter : Nat) : Bytes := u32be (fence % 2 ^ 32) ++ u64be counter

namespace Allocator

variable (allocator : Allocator)

/-- The head of the loop of `allocate`: a nonce, or a wait for the refill. -/
def loopHead : Allocator × Option Bytes :=
  if allocator.next < allocator.ceiling then
    ({ allocator with next := allocator.next + 1 },
      some (nonceBytes allocator.fence allocator.next))
  else
    ({ allocator with
        refilling := some (allocator.refilling.getD .sent)
        waiting := allocator.waiting + 1 },
      none)

/-- The refill's row is read into the variables. -/
def store (row : NonceRangeRow) : Allocator :=
  { allocator with
    fence := row.fence
    ceiling := row.highWater
    next := row.highWater - allocator.rangeSize
    refilling := some .stored }

/-- The `finally` handler after a refill that succeeded. -/
def settle : Allocator :=
  { allocator with
    refilling := none
    waiting := 0
    woken := allocator.woken + allocator.waiting }

/-- The `finally` handler after a refill that failed: the waiting calls throw. -/
def reject : Allocator :=
  { allocator with
    refilling := none
    waiting := 0 }

end Allocator

/-- The database row, the processes (a crashed one leaves its place empty), the statements that
are on their way although nobody waits for them, and the nonces returned so far. -/
structure World where
  row : Option NonceRangeRow
  processes : List (Option Allocator)
  abandoned : List Nat
  returned : List Bytes

inductive Event where
  | create (rangeSize : Option Nat)
  | crash (process : Nat)
  /-- A new call of `allocate` runs to its first await or to its result. -/
  | allocate (process : Nat)
  /-- A call whose refill succeeded goes on. -/
  | resume (process : Nat)
  /-- The database executes the refill statement of the process. -/
  | execute (process : Nat)
  /-- The database executes a statement that nobody waits for any more. -/
  | executeAbandoned (index : Nat)
  /-- The row of an executed refill reaches the process. -/
  | respond (process : Nat)
  /-- The refill fails in the process, whether or not its statement has committed. -/
  | fail (process : Nat)
  /-- The `finally` handler of the refill runs. -/
  | settle (process : Nat)

namespace World

variable (world : World)

def start (row : Option NonceRangeRow) : World where
  row := row
  processes := []
  abandoned := []
  returned := []

def process (index : Nat) : Option Allocator := (world.processes[index]?).join

def put (index : Nat) (allocator : Option Allocator) : World :=
  { world with processes := world.processes.set index allocator }

/-- The statement of a refill that is still on its way outlives the wait for it. -/
def abandon (allocator : Allocator) : World :=
  match allocator.refilling with
  | some .sent => { world with abandoned := allocator.rangeSize :: world.abandoned }
  | _ => world

/-- A process looks at its range. -/
def look (index : Nat) (allocator : Allocator) : World :=
  { world.put index (some allocator.loopHead.1) with
    returned := world.returned ++ allocator.loopHead.2.toList }

/-- One step; an event that cannot happen leaves everything as it is. -/
def step : Event → World
  | .create rangeSize =>
    match createPostgresCursorNonceAllocator rangeSize with
    | some allocator => { world with processes := world.processes ++ [some allocator] }
    | none => world
  | .crash index =>
    match world.process index with
    | some allocator => (world.abandon allocator).put index none
    | none => world
  | .allocate index =>
    match world.process index with
    | some allocator => world.look index allocator
    | none => world
  | .resume index =>
    match world.process index with
    | some allocator =>
      if 0 < allocator.woken then
        world.look index { allocator with woken := allocator.woken - 1 }
      else world
    | none => world
  | .execute index =>
    match world.process index with
    | some allocator =>
      match allocator.refilling with
      | some .sent =>
        let row := refillRow allocator.rangeSize world.row
        { world.put index (some { allocator with refilling := some (.executed row) }) with
          row := some row }
      | _ => world
    | none => world
  | .executeAbandoned index =>
    match world.abandoned[index]? with
    | some rangeSize =>
      { world with
        row := some (refillRow rangeSize world.row)
        abandoned := world.abandoned.eraseIdx index }
    | none => world
  | .respond index =>
    match world.process index with
    | some allocator =>
      match allocator.refilling with
      | some (.executed row) => world.put index (some (allocator.store row))
      | _ => world
    | none => world
  | .fail index =>
    match world.process index with
    | some allocator =>
      match allocator.refilling with
      | some .sent | some (.executed _) =>
        (world.abandon allocator).put index
          (some { allocator with refilling := some .failed })
      | _ => world
    | none => world
  | .settle index =>
    match world.process index with
    | some allocator =>
      match allocator.refilling with
      | some .stored => world.put index (some allocator.settle)
      | some .failed => world.put index (some allocator.reject)
      | _ => world
    | none => world

def run (events : List Event) : World := events.foldl step world

/-- The high-water mark; no row counts as zero. -/
def highWater : Nat :=
  match world.row with
  | some row => row.highWater
  | none => 0

end World

section

/-- The counters an allocator may still hand out: those of its range, and those of a refill
that has committed and is on its way back. -/
def held : Option Allocator → List Nat
  | none => []
  | some allocator =>
    List.range' allocator.next (allocator.ceiling - allocator.next) ++
      match allocator.refilling with
      | some (.executed row) =>
        List.range' (row.highWater - allocator.rangeSize) allocator.rangeSize
      | _ => []

/-- The counters in the hands of all processes. -/
def World.allHeld (world : World) : List Nat := world.processes.flatMap held

/-- The returned nonces come from counters below the high-water mark, and no counter is twice
among those returned and those in some hand. -/
def Separated (world : World) : Prop :=
  ∃ issued : List (Nat × Nat), world.returned = issued.map (fun one => nonceBytes one.1 one.2) ∧
    (issued.map Prod.snd ++ world.allHeld).Nodup ∧
    ∀ counter ∈ issued.map Prod.snd ++ world.allHeld, counter < world.highWater

variable {world : World} {index : Nat} {allocator : Allocator}

private theorem allHeld_put (found : world.process index = some allocator) :
    ∃ before after, world.allHeld = before ++ held (some allocator) ++ after ∧
      ∀ replaced, (world.put index replaced).allHeld = before ++ held replaced ++ after := by
  have hget : world.processes[index]? = some (some allocator) := by
    unfold World.process at found
    cases hprocess : world.processes[index]? with
    | none => simp [hprocess] at found
    | some given =>
      rw [hprocess, Option.join_some] at found
      rw [found]
  obtain ⟨hlt, hat⟩ := List.getElem?_eq_some_iff.mp hget
  refine ⟨(world.processes.take index).flatMap held,
    (world.processes.drop (index + 1)).flatMap held, ?_, ?_⟩
  · have split : world.processes =
        world.processes.take index ++ some allocator :: world.processes.drop (index + 1) := by
      rw [← hat, ← List.drop_eq_getElem_cons hlt, List.take_append_drop]
    rw [World.allHeld]
    conv_lhs => rw [split]
    simp [List.flatMap_append, List.flatMap_cons, List.append_assoc]
  · intro replaced
    have split : world.processes.set index replaced =
        world.processes.take index ++ replaced :: world.processes.drop (index + 1) :=
      List.set_eq_take_append_cons_drop.trans (if_pos hlt)
    simp only [World.put, World.allHeld]
    rw [split]
    simp [List.flatMap_append, List.flatMap_cons, List.append_assoc]

private theorem Separated.shrink (separated : Separated world) {next : World}
    (returned : next.returned = world.returned)
    (fewer : next.allHeld.Sublist world.allHeld) (mark : world.highWater ≤ next.highWater) :
    Separated next := by
  obtain ⟨issued, hreturned, nodup, below⟩ := separated
  have sub : (issued.map Prod.snd ++ next.allHeld).Sublist
      (issued.map Prod.snd ++ world.allHeld) := fewer.append_left _
  refine ⟨issued, returned.trans hreturned, nodup.sublist sub, ?_⟩
  intro counter hcounter
  exact lt_of_lt_of_le (below counter (sub.subset hcounter)) mark

private theorem Separated.put (separated : Separated world)
    (found : world.process index = some allocator) {replaced : Option Allocator}
    (fewer : (held replaced).Sublist (held (some allocator))) :
    Separated (world.put index replaced) := by
  obtain ⟨before, after, hheld, hput⟩ := allHeld_put found
  refine separated.shrink rfl ?_ (Nat.le_refl _)
  rw [hheld, hput]
  exact (fewer.append_left _).append_right _

private theorem Separated.look (separated : Separated world) {seen : Allocator}
    (found : world.process index = some allocator)
    (same : held (some seen) = held (some allocator)) :
    Separated (world.look index seen) := by
  obtain ⟨before, after, hheld, hput⟩ := allHeld_put found
  by_cases room : seen.next < seen.ceiling
  · obtain ⟨issued, hreturned, nodup, below⟩ := separated
    have first : held (some seen) =
        seen.next :: held (some { seen with next := seen.next + 1 }) := by
      have length : seen.ceiling - seen.next = seen.ceiling - (seen.next + 1) + 1 := by omega
      simp only [held]
      rw [length, List.range'_succ]
      simp
    have moved : (issued.map Prod.snd ++ [seen.next] ++ (before ++
        held (some { seen with next := seen.next + 1 }) ++ after)).Perm
        (issued.map Prod.snd ++ world.allHeld) := by
      rw [hheld, ← same, first]
      simp only [List.append_assoc, List.cons_append, List.nil_append]
      exact List.Perm.append_left _ List.perm_middle.symm
    refine ⟨issued ++ [(seen.fence, seen.next)], ?_, ?_, ?_⟩
    · simp [World.look, Allocator.loopHead, room, hreturned]
    · have held' : (world.look index seen).allHeld =
          before ++ held (some { seen with next := seen.next + 1 }) ++ after := by
        rw [← hput]
        simp [World.look, World.allHeld, World.put, Allocator.loopHead, room]
      rw [held', List.map_append]
      exact moved.nodup_iff.mpr nodup
    · have held' : (world.look index seen).allHeld =
          before ++ held (some { seen with next := seen.next + 1 }) ++ after := by
        rw [← hput]
        simp [World.look, World.allHeld, World.put, Allocator.loopHead, room]
      intro counter hcounter
      rw [held', List.map_append] at hcounter
      exact below counter (moved.mem_iff.mp hcounter)
  · refine (separated.put found ?_).shrink ?_ (List.Sublist.refl _) (Nat.le_refl _)
    · rw [← same]
      simp only [Allocator.loopHead, if_neg room, held]
      cases hphase : seen.refilling with
      | none => simp
      | some phase => simp
    · simp [World.look, Allocator.loopHead, room, World.put]

private theorem Separated.execute (separated : Separated world)
    (found : world.process index = some allocator) (sent : allocator.refilling = some .sent) :
    Separated
      { world.put index (some { allocator with
          refilling := some (.executed (refillRow allocator.rangeSize world.row)) }) with
        row := some (refillRow allocator.rangeSize world.row) } := by
  obtain ⟨before, after, hheld, hput⟩ := allHeld_put found
  obtain ⟨issued, hreturned, nodup, below⟩ := separated
  have mark : (refillRow allocator.rangeSize world.row).highWater =
      world.highWater + allocator.rangeSize := by
    unfold World.highWater refillRow
    cases world.row with
    | none => simp
    | some row => rfl
  have more : held (some { allocator with
        refilling := some (.executed (refillRow allocator.rangeSize world.row)) }) =
      held (some allocator) ++ List.range' world.highWater allocator.rangeSize := by
    simp only [held, sent, mark, Nat.add_sub_cancel, List.append_nil]
  have moved : (issued.map Prod.snd ++ (before ++ (held (some allocator) ++
        List.range' world.highWater allocator.rangeSize) ++ after)).Perm
      ((issued.map Prod.snd ++ world.allHeld) ++
        List.range' world.highWater allocator.rangeSize) := by
    rw [hheld]
    simp only [List.append_assoc]
    refine List.Perm.append_left _ (List.Perm.append_left _ (List.Perm.append_left _ ?_))
    exact List.perm_append_comm
  refine ⟨issued, hreturned, ?_, ?_⟩
  · change (issued.map Prod.snd ++ (world.put index _).allHeld).Nodup
    rw [hput, more, moved.nodup_iff, List.nodup_append]
    refine ⟨nodup, List.nodup_range', ?_⟩
    intro counter hcounter other hother same
    have := below counter hcounter
    rw [List.mem_range'_1] at hother
    omega
  · intro counter hcounter
    change counter ∈ issued.map Prod.snd ++ (world.put index _).allHeld at hcounter
    rw [hput, more, moved.mem_iff, List.mem_append] at hcounter
    change counter < (refillRow allocator.rangeSize world.row).highWater
    rw [mark]
    rcases hcounter with hcounter | hcounter
    · have := below counter hcounter
      omega
    · rw [List.mem_range'_1] at hcounter
      omega

private theorem abandon_eq (world : World) (allocator : Allocator) :
    (world.abandon allocator).returned = world.returned ∧
      (world.abandon allocator).processes = world.processes ∧
      (world.abandon allocator).row = world.row := by
  unfold World.abandon
  split <;> exact ⟨rfl, rfl, rfl⟩

private theorem Separated.abandon (separated : Separated world) (allocator : Allocator) :
    Separated (world.abandon allocator) := by
  obtain ⟨returned, processes, row⟩ := abandon_eq world allocator
  refine separated.shrink returned ?_ ?_
  · unfold World.allHeld
    rw [processes]
  · unfold World.highWater
    rw [row]

private theorem process_abandon (world : World) (allocator : Allocator) :
    (world.abandon allocator).process index = world.process index := by
  unfold World.process
  rw [(abandon_eq world allocator).2.1]

private theorem held_store (row : NonceRangeRow)
    (executed : allocator.refilling = some (.executed row)) :
    (held (some (allocator.store row))).Sublist (held (some allocator)) := by
  simp only [held, Allocator.store, executed, List.append_nil]
  refine List.Sublist.trans ?_ (List.sublist_append_right _ _)
  exact List.range'_sublist_right.mpr (by omega)

theorem Separated.step (separated : Separated world) (event : Event) :
    Separated (world.step event) := by
  cases event with
  | create rangeSize =>
    simp only [World.step]
    split
    · rename_i fresh hfresh
      refine separated.shrink rfl ?_ (Nat.le_refl _)
      unfold createPostgresCursorNonceAllocator at hfresh
      dsimp only at hfresh
      split at hfresh
      · cases hfresh
        simp [World.allHeld, held]
      · cases hfresh
    · exact separated
  | crash index =>
    simp only [World.step]
    split
    · rename_i allocator found
      refine (separated.abandon allocator).put ((process_abandon _ _).trans found) ?_
      exact List.nil_sublist _
    · exact separated
  | allocate index =>
    simp only [World.step]
    split
    · rename_i allocator found
      exact separated.look found rfl
    · exact separated
  | resume index =>
    simp only [World.step]
    split
    · rename_i allocator found
      split
      · exact separated.look found rfl
      · exact separated
    · exact separated
  | execute index =>
    simp only [World.step]
    split
    · rename_i allocator found
      split
      · rename_i sent
        exact separated.execute found sent
      · exact separated
    · exact separated
  | executeAbandoned index =>
    simp only [World.step]
    split
    · refine separated.shrink rfl (List.Sublist.refl _) ?_
      unfold World.highWater refillRow
      cases world.row <;> simp
    · exact separated
  | respond index =>
    simp only [World.step]
    split
    · rename_i allocator found
      split
      · rename_i row executed
        exact separated.put found (held_store row executed)
      · exact separated
    · exact separated
  | fail index =>
    simp only [World.step]
    split
    · rename_i allocator found
      split
      · refine (separated.abandon allocator).put ((process_abandon _ _).trans found) ?_
        simp [held]
      · refine (separated.abandon allocator).put ((process_abandon _ _).trans found) ?_
        simp [held]
      · exact separated
    · exact separated
  | settle index =>
    simp only [World.step]
    split
    · rename_i allocator found
      split
      · refine separated.put found ?_
        simp [held, Allocator.settle]
      · refine separated.put found ?_
        simp [held, Allocator.reject]
      · exact separated
    · exact separated

theorem Separated.run (separated : Separated world) (events : List Event) :
    Separated (world.run events) := by
  induction events generalizing world with
  | nil => exact separated
  | cons event events ih => exact ih (separated.step event)

end

private theorem u64be_injective {m n : Nat} (hm : m < 2 ^ 64) (hn : n < 2 ^ 64)
    (h : u64be m = u64be n) : m = n := by
  unfold u64be at h
  obtain ⟨high, low⟩ := List.append_inj h rfl
  have hhigh := u32be_injective (by omega) (by omega) high
  have hlow := u32be_injective (by omega) (by omega) low
  omega

theorem counter_of_nonceBytes {fence fence' counter counter' : Nat} (hlt : counter < 2 ^ 64)
    (hlt' : counter' < 2 ^ 64) (same : nonceBytes fence counter = nonceBytes fence' counter') :
    counter = counter' := by
  unfold nonceBytes at same
  exact u64be_injective hlt hlt' (List.append_inj same rfl).2

/-- Whatever row the processes find and however their steps interleave, all nonces ever
returned are distinct while the high-water mark stays in its range. -/
theorem returned_nonces_nodup (row : Option NonceRangeRow) (events : List Event)
    (inRange : ((World.start row).run events).highWater < 2 ^ 63) :
    ((World.start row).run events).returned.Nodup := by
  have start : Separated (World.start row) :=
    ⟨[], rfl, List.nodup_nil, by simp [World.allHeld, World.start]⟩
  obtain ⟨issued, hreturned, nodup, below⟩ := start.run events
  rw [hreturned]
  have counters : (issued.map Prod.snd).Nodup := nodup.sublist (List.sublist_append_left _ _)
  refine List.Nodup.map_on ?_ counters.of_map
  intro one hone two htwo same
  have small : ∀ entry ∈ issued, entry.2 < 2 ^ 64 := by
    intro entry hentry
    have := below entry.2 (List.mem_append_left _ (List.mem_map_of_mem hentry))
    omega
  have sameCounter := counter_of_nonceBytes (small one hone) (small two htwo) same
  exact List.inj_on_of_nodup_map counters hone htwo sameCounter

def sampleEvents : List Event :=
  [.create (some 2), .create (some 1), .allocate 0, .allocate 0, .execute 0, .respond 0,
    .settle 0, .resume 0, .allocate 1, .execute 1, .fail 1, .settle 1, .resume 0, .allocate 1,
    .execute 1, .respond 1, .settle 1, .resume 1, .crash 0, .create none, .allocate 2,
    .execute 2, .respond 2, .settle 2, .resume 2]

theorem sampleEvents_nodup :
    ((World.start none).run sampleEvents).returned.length = 4 ∧
      ((World.start none).run sampleEvents).returned.Nodup :=
  ⟨by decide +kernel, returned_nonces_nodup none sampleEvents (by decide +kernel)⟩

end JbChat.Store.CursorNonce
