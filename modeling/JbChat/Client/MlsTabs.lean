/- source: src/lib/messaging/mls.ts, idb.ts, crypto/crates/wasm-client/src/lib.rs
   digest: The tabs of a device over one stored MLS snapshot, and when none rolls another back. -/

import JbChat.Foundation.GuardedRun
import Mathlib.Logic.Function.Basic

/-!
A client is its label with the operations that were performed on it; `exportState` and
`importState` keep both. The requests of one tab to the key database are served in their order.
-/

set_option autoImplicit false

namespace JbChat.Client.MlsTabs

open Foundation.GuardedRun

/-- What mutates a client. -/
inductive Operation where
  | generateKeyPackage
  | createGroup (groupId : String)
  | addMembers (groupId : String) (keyPackages : List String)
  | removeMember (groupId signatureKey : String)
  | joinFromWelcome (welcome : String)
  | sealApplication (groupId plaintext : String)
  | openApplication (groupId message : String)
  | processCommit (groupId commit : String)
deriving DecidableEq

structure Performed where
  call : Nat
  operation : Operation
deriving DecidableEq

structure MlsClient where
  label : String
  performed : List Performed
deriving DecidableEq

/-- `instance`: the promise of `loadClient`, from its first await to the client. -/
inductive Instance where
  | absent
  | initializing
  | reading
  | storing (client : MlsClient)
  | loaded (client : MlsClient)
deriving DecidableEq

/-- The instance of a tab, and the snapshots that `persisted` has yet to write for its calls. -/
structure Tab where
  clientInstance : Instance
  writes : List (Nat × MlsClient)

/-- Where a call stands. `before`: what had been performed on its client when it performed its own
operation. -/
inductive Phase where
  | waiting
  | refused
  | persisting (before : List Performed)
  | unpersisted (before : List Performed)
  | returned (before : List Performed)
deriving DecidableEq

structure Call where
  tab : Nat
  operation : Operation
  phase : Phase

/-- `saved`: the value under `mls-state-v1`. -/
structure World where
  saved : Option MlsClient
  tabs : Nat → Tab
  calls : List Call

def MlsClient.perform (client : MlsClient) (performed : Performed) : MlsClient :=
  { client with performed := client.performed ++ [performed] }

namespace World

def setTab (world : World) (tab : Nat) (value : Tab) : World :=
  { world with tabs := Function.update world.tabs tab value }

def setInstance (world : World) (tab : Nat) (clientInstance : Instance) : World :=
  world.setTab tab ⟨clientInstance, (world.tabs tab).writes⟩

def setPhase (world : World) (index : Nat) (call : Call) (phase : Phase) : World :=
  { world with calls := world.calls.set index { call with phase := phase } }

/-- The load has failed: the instance is cleared, and the calls that await it throw. -/
def rejectInstance (world : World) (tab : Nat) : World :=
  { world.setInstance tab .absent with
    calls := world.calls.map fun call =>
      if call.tab = tab ∧ call.phase = .waiting then { call with phase := .refused } else call }

/-- `mlsClient()`, called by an operation. -/
def mlsClient (world : World) (tab : Nat) (operation : Operation) : World :=
  { (if (world.tabs tab).clientInstance = .absent then world.setInstance tab .initializing
      else world) with
    calls := world.calls ++ [⟨tab, operation, .waiting⟩] }

/-- The operation is performed and `persisted` exports the state. -/
def perform (world : World) (index : Nat) (call : Call) (client : MlsClient) : World :=
  let performed := client.perform ⟨index, call.operation⟩
  (world.setTab call.tab ⟨.loaded performed,
    (world.tabs call.tab).writes ++ [(index, performed)]⟩).setPhase index call
      (.persisting client.performed)

end World

/-- A call, or the end of an await: whether it succeeds, and the label that a new client gets. -/
inductive Event where
  | call (tab : Nat) (operation : Operation)
  | initWasm (tab : Nat) (succeeds : Bool)
  | readSaved (tab : Nat) (label : String) (succeeds : Bool)
  | storeFresh (tab : Nat) (succeeds : Bool)
  | perform (index : Nat) (succeeds : Bool)
  | persist (tab : Nat) (succeeds : Bool)

def step (event : Event) (world : World) : Option World :=
  match event with
  | .call tab operation => some (world.mlsClient tab operation)
  | .initWasm tab succeeds =>
    match (world.tabs tab).clientInstance with
    | .initializing =>
      some (if succeeds then world.setInstance tab .reading else world.rejectInstance tab)
    | _ => none
  | .readSaved tab label succeeds =>
    match (world.tabs tab).clientInstance with
    | .reading =>
      some (if succeeds then
        match world.saved with
        | some client => world.setInstance tab (.loaded client)
        | none => world.setInstance tab (.storing ⟨label, []⟩)
      else world.rejectInstance tab)
    | _ => none
  | .storeFresh tab succeeds =>
    match (world.tabs tab).clientInstance with
    | .storing client =>
      some (if succeeds then { world.setInstance tab (.loaded client) with
          saved := some client }
        else world.rejectInstance tab)
    | _ => none
  | .perform index succeeds =>
    match world.calls[index]? with
    | some call =>
      match call.phase, (world.tabs call.tab).clientInstance with
      | .waiting, .loaded client =>
        some (if succeeds then world.perform index call client
          else world.setPhase index call .refused)
      | _, _ => none
    | none => none
  | .persist tab succeeds =>
    match (world.tabs tab).writes with
    | (index, client) :: writes =>
      match world.calls[index]? with
      | some call =>
        match call.phase with
        | .persisting before =>
          let served := world.setTab tab ⟨(world.tabs tab).clientInstance, writes⟩
          some (if succeeds then
            { served.setPhase index call (.returned before) with saved := some client }
          else served.setPhase index call (.unpersisted before))
        | _ => none
      | none => none
    | [] => none

/-- No tab has loaded a client; `label`: that of the client stored by the enrollment, if any. -/
def World.start (label : Option String) : World :=
  ⟨label.map fun label => ⟨label, []⟩, fun _ => ⟨.absent, []⟩, []⟩

def MlsClient.has (client : MlsClient) (index : Nat) : Prop :=
  index ∈ client.performed.map Performed.call

instance (client : MlsClient) (index : Nat) : Decidable (client.has index) :=
  inferInstanceAs (Decidable (_ ∈ _))

/-- The call has returned, or will when its snapshot is written. -/
def Phase.owed : Phase → Bool
  | .persisting _ => true
  | .returned _ => true
  | _ => false

/-- The client has every operation that the other tabs have performed. -/
def World.Covers (world : World) (tab : Nat) (client : MlsClient) : Prop :=
  ∀ entry ∈ world.calls.zipIdx, entry.1.tab ≠ tab → entry.1.phase.owed = true →
    client.has entry.2

instance (world : World) (tab : Nat) (client : MlsClient) : Decidable (world.Covers tab client) :=
  inferInstanceAs (Decidable (∀ entry ∈ _, _))

/-- A tab performs an operation, or stores a new client, only when its client has what the other
tabs have performed. -/
def Guard (event : Event) (world : World) : Prop :=
  match event with
  | .storeFresh tab true =>
    match (world.tabs tab).clientInstance with
    | .storing client => world.Covers tab client
    | _ => True
  | .perform index true =>
    match world.calls[index]? with
    | some call =>
      match (world.tabs call.tab).clientInstance with
      | .loaded client => world.Covers call.tab client
      | _ => True
    | none => True
  | _ => True

instance Guard.decide (event : Event) (world : World) : Decidable (Guard event world) := by
  unfold Guard
  split
  · split <;> infer_instance
  · split
    · split <;> infer_instance
    · infer_instance
  · infer_instance

/-- The epochs of a group that the client has moved through, and the next generation in the last
one. -/
def advance (groupId : String) (at' : Nat × Nat) (performed : Performed) : Nat × Nat :=
  match performed.operation with
  | .addMembers group _ => if group = groupId then (at'.1 + 1, 0) else at'
  | .removeMember group _ => if group = groupId then (at'.1 + 1, 0) else at'
  | .processCommit group _ => if group = groupId then (at'.1 + 1, 0) else at'
  | .sealApplication group _ => if group = groupId then (at'.1, at'.2 + 1) else at'
  | _ => at'

def generation (groupId : String) (performed : List Performed) : Nat × Nat :=
  performed.foldl (advance groupId) (0, 0)

/-- What has returned is in the stored snapshot, and no two seals of a group used one generation. -/
structure World.NeverRolledBack (world : World) : Prop where
  stored : ∀ (index : Nat) (call : Call) (before : List Performed),
    world.calls[index]? = some call → call.phase = .returned before →
      ∃ client, world.saved = some client ∧ ⟨index, call.operation⟩ ∈ client.performed
  apart : ∀ (first second : Nat) (call other : Call) (groupId plaintext text : String)
    (before after : List Performed), first ≠ second →
      world.calls[first]? = some call → call.operation = .sealApplication groupId plaintext →
      call.phase = .returned before → world.calls[second]? = some other →
      other.operation = .sealApplication groupId text → other.phase = .returned after →
        generation groupId before ≠ generation groupId after

section

variable {groupId : String}

/-- The order in which a client moves through the generations of a group. -/
def NoLater (first second : Nat × Nat) : Prop :=
  first.1 < second.1 ∨ first.1 = second.1 ∧ first.2 ≤ second.2

theorem noLater_advance (at' : Nat × Nat) (performed : Performed) :
    NoLater at' (advance groupId at' performed) := by
  unfold NoLater advance
  split
  all_goals first
    | (split <;> simp)
    | simp

theorem noLater_foldl (at' : Nat × Nat) (performed : List Performed) :
    NoLater at' (performed.foldl (advance groupId) at') := by
  induction performed generalizing at' with
  | nil => exact .inr ⟨rfl, Nat.le_refl _⟩
  | cons entry rest ih =>
    have hfirst : NoLater at' (advance groupId at' entry) := noLater_advance at' entry
    have hrest := ih (advance groupId at' entry)
    unfold NoLater at hfirst hrest ⊢
    rw [List.foldl_cons]
    omega

theorem generation_ne {performed : List Performed} {position call : Nat} {plaintext : String}
    (h : performed[position]? = some ⟨call, .sealApplication groupId plaintext⟩) :
    generation groupId (performed.take position) ≠ generation groupId performed := by
  have hsplit : performed = performed.take position ++
      ⟨call, .sealApplication groupId plaintext⟩ :: performed.drop (position + 1) := by
    obtain ⟨hlt, hentry⟩ := List.getElem?_eq_some_iff.mp h
    rw [← hentry, List.getElem_cons_drop, List.take_append_drop]
  let used := advance groupId (generation groupId (performed.take position))
    ⟨call, .sealApplication groupId plaintext⟩
  have hpast : NoLater used ((performed.drop (position + 1)).foldl (advance groupId) used) :=
    noLater_foldl used _
  have hall : generation groupId performed =
      (performed.drop (position + 1)).foldl (advance groupId) used := by
    conv_lhs => rw [hsplit]
    unfold generation
    rw [List.foldl_append, List.foldl_cons]
    rfl
  rw [← hall] at hpast
  intro hsame
  rw [← hsame] at hpast
  unfold NoLater at hpast
  simp only [used, advance, ↓reduceIte] at hpast
  omega

end

section

variable {world next : World} {done : Nat → Option Call} {performed : List Performed}
  {client : MlsClient} {index : Nat} {call : Call}

def Phase.before : Phase → Option (List Performed)
  | .persisting before => some before
  | .unpersisted before => some before
  | .returned before => some before
  | _ => none

def Phase.persists : Phase → Bool
  | .persisting _ => true
  | _ => false

def Phase.hasReturned : Phase → Bool
  | .returned _ => true
  | _ => false

/-- The calls that have performed their operations. -/
def World.record (world : World) (index : Nat) : Option Call :=
  world.calls[index]?.filter fun call => call.phase.before.isSome

theorem record_eq_some :
    world.record index = some call ↔
      world.calls[index]? = some call ∧ call.phase.before.isSome = true := by
  unfold World.record
  rw [Option.filter_eq_some_iff]

def Built (done : Nat → Option Call) (performed : List Performed) : Prop :=
  ∀ (position : Nat) (entry : Performed), performed[position]? = some entry →
    ∃ call, done entry.call = some call ∧ call.operation = entry.operation ∧
      call.phase.before = some (performed.take position)

theorem Built.nil : Built done [] := fun _ _ h => nomatch h

theorem Built.take (built : Built done performed) (count : Nat) :
    Built done (performed.take count) := by
  intro position entry hentry
  rw [List.getElem?_take] at hentry
  split_ifs at hentry with hlt
  obtain ⟨call, hcall, hoperation, hbefore⟩ := built position entry hentry
  refine ⟨call, hcall, hoperation, hbefore.trans ?_⟩
  rw [List.take_take, Nat.min_eq_left (Nat.le_of_lt hlt)]

theorem Built.of_has (built : Built done client.performed) (has : client.has index) :
    ∃ call position, done index = some call ∧
      client.performed[position]? = some ⟨index, call.operation⟩ ∧
      call.phase.before = some (client.performed.take position) := by
  obtain ⟨entry, hentry, rfl⟩ := List.mem_map.mp has
  obtain ⟨position, hposition⟩ := List.mem_iff_getElem?.mp hentry
  obtain ⟨call, hcall, hoperation, hbefore⟩ := built position entry hposition
  refine ⟨call, position, hcall, ?_, hbefore⟩
  rw [hposition, hoperation]

theorem Built.not_has (built : Built done client.performed)
    (hrecord : done index = none) : ¬ client.has index := by
  intro has
  obtain ⟨call, position, hcall, -, -⟩ := built.of_has has
  rw [hrecord] at hcall
  cases hcall

theorem Built.update (built : Built done performed)
    (same : ∀ old, done index = some old → call.operation = old.operation ∧
      call.phase.before = old.phase.before) :
    Built (Function.update done index (some call)) performed := by
  intro position entry hentry
  obtain ⟨old, hold, hoperation, hbefore⟩ := built position entry hentry
  by_cases hindex : entry.call = index
  · rw [hindex] at hold ⊢
    obtain ⟨hsame, hphase⟩ := same old hold
    exact ⟨call, Function.update_self .., hsame.trans hoperation, hphase.trans hbefore⟩
  · exact ⟨old, (Function.update_of_ne hindex ..).trans hold, hoperation, hbefore⟩

theorem Built.perform (built : Built done client.performed) (hcall : done index = some call)
    (hphase : call.phase.before = some client.performed) :
    Built done (client.perform ⟨index, call.operation⟩).performed := by
  intro position entry hentry
  unfold MlsClient.perform at hentry ⊢
  dsimp only at hentry ⊢
  rcases Nat.lt_or_ge position client.performed.length with hlt | hge
  · rw [List.getElem?_append_left hlt] at hentry
    rw [List.take_append_of_le_length (Nat.le_of_lt hlt)]
    exact built position entry hentry
  · rw [List.getElem?_append_right hge, List.getElem?_singleton] at hentry
    split_ifs at hentry with hzero
    cases hentry
    have hlength : position = client.performed.length := by omega
    exact ⟨call, hcall, rfl, by rw [hlength, List.take_left]; exact hphase⟩

theorem perform_has {performed : Performed} :
    (client.perform performed).has index ↔ client.has index ∨ index = performed.call := by
  unfold MlsClient.has MlsClient.perform
  rw [List.map_append, List.mem_append, List.map_cons, List.map_nil, List.mem_singleton]

def World.Loaded (world : World) (tab : Nat) (client : MlsClient) : Prop :=
  (world.tabs tab).clientInstance = .loaded client

/-- The snapshots against what was performed. All calls whose snapshots are still to be written are
of one tab, and no other tab, nor the stored snapshot, has their operations. -/
structure Inv (world : World) : Prop where
  savedBuilt : ∀ client, world.saved = some client → Built world.record client.performed
  loadedBuilt : ∀ tab client, world.Loaded tab client → Built world.record client.performed
  writesBuilt : ∀ tab, ∀ write ∈ (world.tabs tab).writes, Built world.record write.2.performed
  fresh : ∀ tab client, (world.tabs tab).clientInstance = .storing client → client.performed = []
  own : ∀ index call, world.record index = some call →
    ∃ client, world.Loaded call.tab client ∧ client.has index
  queued : ∀ tab, ∀ write ∈ (world.tabs tab).writes, ∃ call, world.record write.1 = some call ∧
    call.tab = tab ∧ call.phase.persists = true ∧ write.2.has write.1
  pending : ∀ index call, world.record index = some call → call.phase.persists = true →
    ∃ client, (index, client) ∈ (world.tabs call.tab).writes
  ordered : ∀ tab, (world.tabs tab).writes.Pairwise fun first second =>
    second.2.has first.1 ∧ ¬ first.2.has second.1
  unsaved : ∀ index call, world.record index = some call → call.phase.persists = true →
    ∀ client, world.saved = some client → ¬ client.has index
  unshared : ∀ index call, world.record index = some call → call.phase.persists = true →
    ∀ tab client, tab ≠ call.tab → world.Loaded tab client → ¬ client.has index
  oneTab : ∀ first second call other, world.record first = some call →
    call.phase.persists = true → world.record second = some other →
      other.phase.persists = true → call.tab = other.tab
  returned : ∀ index call, world.record index = some call → call.phase.hasReturned = true →
    ∃ client, world.saved = some client ∧ client.has index
  carried : ∀ index call, world.record index = some call → call.phase.hasReturned = true →
    ∀ tab, ∀ write ∈ (world.tabs tab).writes, write.2.has index
  chained : ∀ first second call other before after, first ≠ second →
    world.record first = some call → call.phase.owed = true → call.phase.before = some before →
      world.record second = some other → other.phase.owed = true →
      other.phase.before = some after →
        first ∈ after.map Performed.call ∨ second ∈ before.map Performed.call

theorem Inv.start (label : Option String) : Inv (World.start label) where
  savedBuilt client hsaved := by
    obtain ⟨label, -, rfl⟩ := Option.map_eq_some_iff.mp hsaved
    exact .nil
  loadedBuilt _ _ h := nomatch h
  writesBuilt _ _ h := nomatch h
  fresh _ _ h := nomatch h
  own _ _ h := nomatch h
  queued _ _ h := nomatch h
  pending _ _ h := nomatch h
  ordered _ := .nil
  unsaved _ _ h := nomatch h
  unshared _ _ h := nomatch h
  oneTab _ _ _ _ h := nomatch h
  returned _ _ h := nomatch h
  carried _ _ h := nomatch h
  chained _ _ _ _ _ _ _ h := nomatch h

theorem Inv.quiet (inv : Inv world) (saved : next.saved = world.saved)
    (writes : ∀ tab, (next.tabs tab).writes = (world.tabs tab).writes)
    (loaded : ∀ tab client, next.Loaded tab client ↔ world.Loaded tab client)
    (fresh : ∀ tab client, (next.tabs tab).clientInstance = .storing client →
      client.performed = [])
    (record : next.record = world.record) : Inv next where
  savedBuilt client hsaved := record ▸ inv.savedBuilt client (saved ▸ hsaved)
  loadedBuilt tab client hloaded := record ▸ inv.loadedBuilt tab client ((loaded _ _).mp hloaded)
  writesBuilt tab write hwrite := record ▸ inv.writesBuilt tab write (writes tab ▸ hwrite)
  fresh := fresh
  own index call hcall := by
    obtain ⟨client, hloaded, has⟩ := inv.own index call (record ▸ hcall)
    exact ⟨client, (loaded _ _).mpr hloaded, has⟩
  queued tab write hwrite := record ▸ inv.queued tab write (writes tab ▸ hwrite)
  pending index call hcall persists := by
    rw [writes]
    exact inv.pending index call (record ▸ hcall) persists
  ordered tab := writes tab ▸ inv.ordered tab
  unsaved index call hcall persists client hsaved :=
    inv.unsaved index call (record ▸ hcall) persists client (saved ▸ hsaved)
  unshared index call hcall persists tab client hne hloaded :=
    inv.unshared index call (record ▸ hcall) persists tab client hne ((loaded _ _).mp hloaded)
  oneTab first second call other hcall persists hother :=
    inv.oneTab first second call other (record ▸ hcall) persists (record ▸ hother)
  returned index call hcall := saved ▸ inv.returned index call (record ▸ hcall)
  carried index call hcall hreturned tab write hwrite :=
    inv.carried index call (record ▸ hcall) hreturned tab write (writes tab ▸ hwrite)
  chained first second call other before after hne hcall howed hbefore hother :=
    inv.chained first second call other before after hne (record ▸ hcall) howed hbefore
      (record ▸ hother)

end

section

variable {world : World} {client : MlsClient} {tab index : Nat} {call : Call} {phase : Phase}

theorem setTab_tabs (value : Tab) (other : Nat) :
    (world.setTab tab value).tabs other = if other = tab then value else world.tabs other := by
  unfold World.setTab
  dsimp only
  split_ifs with hsame
  · rw [hsame, Function.update_self]
  · rw [Function.update_of_ne hsame]

theorem setInstance_writes (clientInstance : Instance) (other : Nat) :
    ((world.setInstance tab clientInstance).tabs other).writes = (world.tabs other).writes := by
  unfold World.setInstance
  rw [setTab_tabs]
  split_ifs with hsame
  · rw [hsame]
  · rfl

theorem setInstance_instance (clientInstance : Instance) (other : Nat) :
    ((world.setInstance tab clientInstance).tabs other).clientInstance =
      if other = tab then clientInstance else (world.tabs other).clientInstance := by
  unfold World.setInstance
  rw [setTab_tabs]
  split_ifs <;> rfl

theorem record_setPhase (hcall : world.calls[index]? = some call) (phase : Phase) :
    (world.setPhase index call phase).record = Function.update world.record index
      (if phase.before.isSome then some { call with phase := phase } else none) := by
  funext other
  unfold World.record World.setPhase
  dsimp only
  by_cases hsame : other = index
  · subst hsame
    have hlt := (List.getElem?_eq_some_iff.mp hcall).1
    rw [Function.update_self, List.getElem?_set_self hlt, Option.filter_some]
  · rw [Function.update_of_ne hsame, List.getElem?_set_ne (Ne.symm hsame)]

theorem record_eq_none (hcall : world.calls[index]? = some call)
    (hphase : call.phase.before = none) : world.record index = none := by
  unfold World.record
  rw [hcall, Option.filter_some, hphase]
  rfl

theorem Inv.setInstance (inv : Inv world) {clientInstance : Instance}
    (unloaded : ∀ client, ¬ world.Loaded tab client)
    (absent : ∀ client, clientInstance ≠ .loaded client)
    (fresh : ∀ client, clientInstance = .storing client → client.performed = []) :
    Inv (world.setInstance tab clientInstance) := by
  refine inv.quiet rfl (setInstance_writes _) (fun other client => ?_) (fun other client h => ?_)
    rfl
  · unfold World.Loaded
    rw [setInstance_instance]
    split_ifs with hsame
    · subst hsame
      exact ⟨fun h => absurd h (absent client), fun h => absurd h (unloaded client)⟩
    · exact Iff.rfl
  · rw [setInstance_instance] at h
    split_ifs at h
    · exact fresh client h
    · exact inv.fresh other client h

theorem Inv.mlsClient (inv : Inv world) (operation : Operation) :
    Inv (world.mlsClient tab operation) := by
  have appended : ∀ {called : World}, Inv called →
      Inv { called with calls := called.calls ++ [⟨tab, operation, .waiting⟩] } := by
    intro called held
    refine held.quiet rfl (fun _ => rfl) (fun _ _ => Iff.rfl) held.fresh ?_
    funext other
    unfold World.record
    dsimp only
    rcases Nat.lt_or_ge other called.calls.length with hlt | hge
    · rw [List.getElem?_append_left hlt]
    · rw [List.getElem?_append_right hge, List.getElem?_eq_none hge, List.getElem?_singleton]
      split_ifs <;> rfl
  unfold World.mlsClient
  split_ifs with habsent
  · refine appended (inv.setInstance (fun client h => ?_) nofun nofun)
    unfold World.Loaded at h
    rw [habsent] at h
    cases h
  · exact appended inv

theorem Inv.rejectInstance (inv : Inv world) (unloaded : ∀ client, ¬ world.Loaded tab client) :
    Inv (world.rejectInstance tab) := by
  have cleared : Inv (world.setInstance tab .absent) := inv.setInstance unloaded nofun nofun
  refine cleared.quiet rfl (fun _ => rfl) (fun _ _ => Iff.rfl) cleared.fresh ?_
  funext other
  unfold World.record World.rejectInstance World.setInstance World.setTab
  dsimp only
  rw [List.getElem?_map]
  cases world.calls[other]? with
  | none => rfl
  | some call =>
    rw [Option.map_some]
    by_cases hcall : call.tab = tab ∧ call.phase = .waiting
    · rw [if_pos hcall, Option.filter_some, Option.filter_some, hcall.2]
      rfl
    · rw [if_neg hcall]

theorem Inv.importState (inv : Inv world) (unloaded : ∀ client, ¬ world.Loaded tab client)
    (hsaved : world.saved = some client) : Inv (world.setInstance tab (.loaded client)) := by
  have hloaded : ∀ other held, (world.setInstance tab (.loaded client)).Loaded other held →
      other = tab ∧ held = client ∨ other ≠ tab ∧ world.Loaded other held := by
    intro other held h
    unfold World.Loaded at h
    rw [setInstance_instance] at h
    split_ifs at h with hsame
    · exact .inl ⟨hsame, (Instance.loaded.inj h).symm⟩
    · exact .inr ⟨hsame, h⟩
  refine { inv with
    loadedBuilt := ?_, writesBuilt := ?_, fresh := ?_, own := ?_, queued := ?_, pending := ?_
    ordered := ?_, unshared := ?_, carried := ?_ }
  · intro other held h
    rcases hloaded other held h with ⟨-, rfl⟩ | ⟨-, h⟩
    · exact inv.savedBuilt held hsaved
    · exact inv.loadedBuilt other held h
  · intro other
    rw [setInstance_writes]
    exact inv.writesBuilt other
  · intro other held h
    rw [setInstance_instance] at h
    split_ifs at h
    exact inv.fresh other held h
  · intro index call hcall
    obtain ⟨held, h, has⟩ := inv.own index call hcall
    have hne : call.tab ≠ tab := fun hsame => unloaded held (hsame ▸ h)
    refine ⟨held, ?_, has⟩
    unfold World.Loaded
    rw [setInstance_instance, if_neg hne]
    exact h
  · intro other
    rw [setInstance_writes]
    exact inv.queued other
  · intro index call hcall
    rw [setInstance_writes]
    exact inv.pending index call hcall
  · intro other
    rw [setInstance_writes]
    exact inv.ordered other
  · intro index call hcall persists other held hne h
    rcases hloaded other held h with ⟨-, rfl⟩ | ⟨-, h⟩
    · exact inv.unsaved index call hcall persists held hsaved
    · exact inv.unshared index call hcall persists other held hne h
  · intro index call hcall hreturned other
    rw [setInstance_writes]
    exact inv.carried index call hcall hreturned other

theorem owed_of_persists (h : phase.persists = true) : phase.owed = true := by
  cases phase <;> first | rfl | cases h

theorem owed_of_hasReturned (h : phase.hasReturned = true) :
    phase.owed = true := by
  cases phase <;> first | rfl | cases h

theorem World.Covers.has {other : Nat} {performer : Call} (covers : world.Covers tab client)
    (hcall : world.record other = some performer) (hne : performer.tab ≠ tab)
    (howed : performer.phase.owed = true) : client.has other := by
  have hentry := (record_eq_some.mp hcall).1
  exact covers (performer, other) (List.mem_zipIdx_iff_getElem?.mpr hentry) hne howed

/-- A new client that is stored when no call of another tab is owed its operation. -/
theorem Inv.storeFresh (inv : Inv world)
    (hstoring : (world.tabs tab).clientInstance = .storing client)
    (covers : world.Covers tab client) :
    Inv { world.setInstance tab (.loaded client) with saved := some client } := by
  have hempty := inv.fresh tab client hstoring
  have unloaded : ∀ held, ¬ world.Loaded tab held := by
    intro held h
    unfold World.Loaded at h
    rw [hstoring] at h
    cases h
  have unowed : ∀ other performer, world.record other = some performer →
      ¬ performer.phase.owed = true := by
    intro other performer hrecord howed
    by_cases hsame : performer.tab = tab
    · obtain ⟨held, h, -⟩ := inv.own other performer hrecord
      exact unloaded held (hsame ▸ h)
    · have has := covers.has hrecord hsame howed
      unfold MlsClient.has at has
      rw [hempty] at has
      cases has
  have hwrites : ∀ other, (world.tabs other).writes = [] := by
    intro other
    refine List.eq_nil_iff_forall_not_mem.mpr fun write hwrite => ?_
    obtain ⟨performer, hrecord, -, persists, -⟩ := inv.queued other write hwrite
    exact unowed _ _ hrecord (owed_of_persists persists)
  refine { savedBuilt := ?_, loadedBuilt := ?_, writesBuilt := ?_, fresh := ?_, own := ?_
           queued := ?_, pending := ?_, ordered := ?_, unsaved := ?_, unshared := ?_
           oneTab := ?_, returned := ?_, carried := ?_, chained := ?_ }
  · intro held hsaved
    cases hsaved
    rw [hempty]
    exact .nil
  · intro other held h
    change ((world.setInstance tab _).tabs other).clientInstance = _ at h
    rw [setInstance_instance] at h
    split_ifs at h
    · obtain rfl := Instance.loaded.inj h
      rw [hempty]
      exact .nil
    · exact inv.loadedBuilt other held h
  · intro other write hwrite
    change write ∈ ((world.setInstance tab _).tabs other).writes at hwrite
    rw [setInstance_writes, hwrites] at hwrite
    cases hwrite
  · intro other held h
    change ((world.setInstance tab _).tabs other).clientInstance = _ at h
    rw [setInstance_instance] at h
    split_ifs at h
    exact inv.fresh other held h
  · intro other performer hrecord
    obtain ⟨held, h, has⟩ := inv.own other performer hrecord
    have hne : performer.tab ≠ tab := fun hsame => unloaded held (hsame ▸ h)
    refine ⟨held, ?_, has⟩
    change ((world.setInstance tab _).tabs performer.tab).clientInstance = _
    rw [setInstance_instance, if_neg hne]
    exact h
  · intro other write hwrite
    change write ∈ ((world.setInstance tab _).tabs other).writes at hwrite
    rw [setInstance_writes, hwrites] at hwrite
    cases hwrite
  · exact fun _ _ hrecord persists => absurd (owed_of_persists persists) (unowed _ _ hrecord)
  · intro other
    change ((world.setInstance tab _).tabs other).writes.Pairwise _
    rw [setInstance_writes, hwrites]
    exact .nil
  · exact fun _ _ hrecord persists => absurd (owed_of_persists persists) (unowed _ _ hrecord)
  · exact fun _ _ hrecord persists => absurd (owed_of_persists persists) (unowed _ _ hrecord)
  · exact fun _ _ _ _ hrecord persists =>
      absurd (owed_of_persists persists) (unowed _ _ hrecord)
  · exact fun _ _ hrecord hreturned =>
      absurd (owed_of_hasReturned hreturned) (unowed _ _ hrecord)
  · exact fun _ _ hrecord hreturned =>
      absurd (owed_of_hasReturned hreturned) (unowed _ _ hrecord)
  · exact fun _ _ _ _ _ _ _ hrecord howed => absurd howed (unowed _ _ hrecord)

end

section

variable {world : World} {client : MlsClient} {tab index : Nat} {call : Call} {other : Nat}
  {performer : Call}

theorem Inv.has_owed (inv : Inv world) (loaded : world.Loaded tab client)
    (covers : world.Covers tab client) (hrecord : world.record other = some performer)
    (howed : performer.phase.owed = true) :
    client.has other := by
  by_cases hsame : performer.tab = tab
  · obtain ⟨held, h, has⟩ := inv.own other performer hrecord
    rw [hsame] at h
    obtain rfl := Instance.loaded.inj (h.symm.trans loaded)
    exact has
  · exact covers.has hrecord hsame howed

theorem Inv.pending_tab (inv : Inv world) (loaded : world.Loaded tab client)
    (covers : world.Covers tab client) (hrecord : world.record other = some performer)
    (persists : performer.phase.persists = true) :
    performer.tab = tab := by
  by_contra hne
  exact inv.unshared other performer hrecord persists tab client (Ne.symm hne) loaded
    (covers.has hrecord hne (owed_of_persists persists))

theorem perform_loaded {held : MlsClient} :
    (world.perform index call client).Loaded other held ↔
      other = call.tab ∧ held = client.perform ⟨index, call.operation⟩ ∨
        other ≠ call.tab ∧ world.Loaded other held := by
  change ((world.setTab call.tab _).tabs other).clientInstance = .loaded held ↔ _
  rw [setTab_tabs]
  split_ifs with hsame
  · exact ⟨fun h => .inl ⟨hsame, (Instance.loaded.inj h).symm⟩, by
      rintro (⟨-, rfl⟩ | ⟨hne, -⟩)
      · rfl
      · exact absurd hsame hne⟩
  · exact ⟨fun h => .inr ⟨hsame, h⟩, by
      rintro (⟨heq, -⟩ | ⟨-, h⟩)
      · exact absurd heq hsame
      · exact h⟩

theorem perform_writes {write : Nat × MlsClient} :
    write ∈ ((world.perform index call client).tabs other).writes ↔
      write ∈ (world.tabs other).writes ∨
        other = call.tab ∧ write = (index, client.perform ⟨index, call.operation⟩) := by
  change write ∈ ((world.setTab call.tab _).tabs other).writes ↔ _
  rw [setTab_tabs]
  split_ifs with hsame
  · rw [List.mem_append, List.mem_singleton, hsame]
    simp
  · simp [hsame]

/-- The record of the call is set, and no other one has changed. -/
def World.Sets (world later : World) (index : Nat) (call : Call) : Prop :=
  later.record = Function.update world.record index (some call)

theorem World.Sets.cases {later : World} {set : Call} (sets : world.Sets later index set)
    (h : later.record other = some performer) :
    other = index ∧ set = performer ∨ other ≠ index ∧ world.record other = some performer := by
  have hrecord := (congrFun sets other).symm.trans h
  by_cases hsame : other = index
  · subst hsame
    rw [Function.update_self] at hrecord
    exact Or.inl ⟨rfl, Option.some.inj hrecord⟩
  · rw [Function.update_of_ne hsame] at hrecord
    exact Or.inr ⟨hsame, hrecord⟩

theorem World.Sets.kept {later : World} {set : Call} (sets : world.Sets later index set)
    (hne : other ≠ index) (h : world.record other = some performer) :
    later.record other = some performer :=
  ((congrFun sets other).trans (Function.update_of_ne hne ..)).trans h

theorem perform_sets (hcall : world.calls[index]? = some call) :
    world.Sets (world.perform index call client) index
      { call with phase := .persisting client.performed } :=
  record_setPhase (show (world.setTab call.tab _).calls[index]? = some call from hcall) _

theorem perform_built {performed : List Performed} (hcall : world.calls[index]? = some call)
    (fresh : world.record index = none) (built : Built world.record performed) :
    Built (world.perform index call client).record performed := by
  rw [perform_sets hcall]
  exact built.update fun old hold => nomatch fresh.symm.trans hold

theorem Inv.perform_tab (inv : Inv world) (hcall : world.calls[index]? = some call)
    (loaded : world.Loaded call.tab client) (covers : world.Covers call.tab client)
    (h : (world.perform index call client).record other = some performer)
    (persists : performer.phase.persists = true) : performer.tab = call.tab := by
  rcases (perform_sets hcall).cases h with ⟨-, rfl⟩ | ⟨-, h⟩
  · rfl
  · exact inv.pending_tab loaded covers h persists

theorem Inv.perform_ordered (inv : Inv world) (hfresh : world.record index = none)
    (loaded : world.Loaded call.tab client) (covers : world.Covers call.tab client) :
    ((world.perform index call client).tabs other).writes.Pairwise fun first second =>
      second.2.has first.1 ∧ ¬ first.2.has second.1 := by
  change ((world.setTab call.tab _).tabs other).writes.Pairwise _
  rw [setTab_tabs]
  split_ifs with hsame
  · refine List.pairwise_append.mpr ⟨inv.ordered call.tab, List.pairwise_singleton .., ?_⟩
    intro write hwrite new hnew
    obtain rfl := List.mem_singleton.mp hnew
    obtain ⟨performer, h, -, persists, -⟩ := inv.queued _ write hwrite
    exact ⟨perform_has.mpr (.inl (inv.has_owed loaded covers h (owed_of_persists persists))),
      (inv.writesBuilt _ write hwrite).not_has hfresh⟩
  · exact inv.ordered other

theorem Inv.perform (inv : Inv world) (hcall : world.calls[index]? = some call)
    (waiting : call.phase = .waiting) (loaded : world.Loaded call.tab client)
    (covers : world.Covers call.tab client) : Inv (world.perform index call client) := by
  have hfresh : world.record index = none := record_eq_none hcall (by rw [waiting]; rfl)
  have sets : world.Sets (world.perform index call client) index _ := perform_sets hcall
  have hself : (world.perform index call client).record index =
      some { call with phase := .persisting client.performed } :=
    (congrFun sets index).trans (Function.update_self ..)
  have hbuilt {performed : List Performed} (built : Built world.record performed) :
      Built (world.perform index call client).record performed :=
    perform_built hcall hfresh built
  have hperformed := Built.perform (hbuilt (inv.loadedBuilt _ _ loaded)) hself rfl
  refine { savedBuilt := ?savedBuilt, loadedBuilt := ?loadedBuilt, writesBuilt := ?writesBuilt
           fresh := ?fresh, own := ?own, queued := ?queued, pending := ?pending
           ordered := ?ordered, unsaved := ?unsaved, unshared := ?unshared, oneTab := ?oneTab
           returned := ?returned, carried := ?carried, chained := ?chained }
  case savedBuilt =>
    exact fun held hsaved => hbuilt (inv.savedBuilt held hsaved)
  case loadedBuilt =>
    intro other held h
    rcases perform_loaded.mp h with ⟨-, rfl⟩ | ⟨-, h⟩
    · exact hperformed
    · exact hbuilt (inv.loadedBuilt other held h)
  case writesBuilt =>
    intro other write hwrite
    rcases perform_writes.mp hwrite with hold | ⟨-, rfl⟩
    · exact hbuilt (inv.writesBuilt other write hold)
    · exact hperformed
  case fresh =>
    intro other held h
    change ((world.setTab call.tab _).tabs other).clientInstance = _ at h
    rw [setTab_tabs] at h
    split_ifs at h
    exact inv.fresh other held h
  case own =>
    intro other performer h
    rcases sets.cases h with ⟨rfl, rfl⟩ | ⟨-, h⟩
    · exact ⟨_, perform_loaded.mpr (.inl ⟨rfl, rfl⟩), perform_has.mpr (.inr rfl)⟩
    · obtain ⟨held, hheld, has⟩ := inv.own other performer h
      by_cases htab : performer.tab = call.tab
      · rw [htab] at hheld
        obtain rfl := Instance.loaded.inj (hheld.symm.trans loaded)
        exact ⟨_, perform_loaded.mpr (.inl ⟨htab, rfl⟩), perform_has.mpr (.inl has)⟩
      · exact ⟨held, perform_loaded.mpr (.inr ⟨htab, hheld⟩), has⟩
  case queued =>
    intro other write hwrite
    rcases perform_writes.mp hwrite with hold | ⟨rfl, rfl⟩
    · obtain ⟨performer, h, htab, persists, has⟩ := inv.queued other write hold
      have hne : write.1 ≠ index := by
        intro heq
        rw [heq, hfresh] at h
        cases h
      exact ⟨performer, sets.kept hne h, htab, persists, has⟩
    · exact ⟨_, hself, rfl, rfl, perform_has.mpr (.inr rfl)⟩
  case pending =>
    intro other performer h persists
    rcases sets.cases h with ⟨rfl, rfl⟩ | ⟨-, h⟩
    · exact ⟨_, perform_writes.mpr (.inr ⟨rfl, rfl⟩)⟩
    · obtain ⟨held, hheld⟩ := inv.pending other performer h persists
      exact ⟨held, perform_writes.mpr (.inl hheld)⟩
  case ordered =>
    exact fun other => inv.perform_ordered hfresh loaded covers
  case unsaved =>
    intro other performer h persists held hsaved
    rcases sets.cases h with ⟨rfl, rfl⟩ | ⟨-, h⟩
    · exact (inv.savedBuilt held hsaved).not_has hfresh
    · exact inv.unsaved other performer h persists held hsaved
  case unshared =>
    intro other performer h persists elsewhere held hne hheld
    rcases sets.cases h with ⟨rfl, rfl⟩ | ⟨-, hold⟩
    · rcases perform_loaded.mp hheld with ⟨htab, -⟩ | ⟨-, hheld⟩
      · exact absurd htab hne
      · exact (inv.loadedBuilt elsewhere held hheld).not_has hfresh
    · rcases perform_loaded.mp hheld with ⟨htab, -⟩ | ⟨-, hheld⟩
      · exact absurd (htab.trans (inv.pending_tab loaded covers hold persists).symm) hne
      · exact inv.unshared other performer hold persists elsewhere held hne hheld
  case oneTab =>
    intro first second performer performer' h persists h' persists'
    exact (inv.perform_tab hcall loaded covers h persists).trans
      (inv.perform_tab hcall loaded covers h' persists').symm
  case returned =>
    intro other performer h hreturned
    rcases sets.cases h with ⟨rfl, rfl⟩ | ⟨-, h⟩
    · cases hreturned
    · exact inv.returned other performer h hreturned
  case carried =>
    intro other performer h hreturned elsewhere write hwrite
    rcases sets.cases h with ⟨rfl, rfl⟩ | ⟨-, hold⟩
    · cases hreturned
    · rcases perform_writes.mp hwrite with hwrite | ⟨-, rfl⟩
      · exact inv.carried other performer hold hreturned elsewhere write hwrite
      · exact perform_has.mpr
          (.inl (inv.has_owed loaded covers hold (owed_of_hasReturned hreturned)))
  case chained =>
    intro first second performer performer' before after hne h howed hbefore h' howed' hafter
    rcases sets.cases h with ⟨rfl, rfl⟩ | ⟨-, hold⟩
    · cases hbefore
      rcases sets.cases h' with ⟨rfl, -⟩ | ⟨-, hold'⟩
      · exact absurd rfl hne
      · exact .inr (inv.has_owed loaded covers hold' howed')
    · rcases sets.cases h' with ⟨rfl, rfl⟩ | ⟨-, hold'⟩
      · cases hafter
        exact .inl (inv.has_owed loaded covers hold howed)
      · exact inv.chained first second performer performer' before after hne hold howed hbefore
          hold' howed' hafter

end

section

variable {world : World} {client : MlsClient} {tab index : Nat} {call : Call}
  {writes : List (Nat × MlsClient)} {before : List Performed} {other : Nat}

/-- The tab after the request that heads its queue was served. -/
def World.served (world : World) (tab : Nat) (writes : List (Nat × MlsClient)) : World :=
  world.setTab tab ⟨(world.tabs tab).clientInstance, writes⟩

theorem served_loaded {held : MlsClient} :
    (world.served tab writes).Loaded other held ↔ world.Loaded other held := by
  unfold World.Loaded World.served
  rw [setTab_tabs]
  split_ifs with hsame
  · rw [hsame]
  · exact Iff.rfl

theorem Inv.served_writes (inv : Inv world)
    (hwrites : (world.tabs tab).writes = (index, client) :: writes) {write : Nat × MlsClient}
    (hwrite : write ∈ ((world.served tab writes).tabs other).writes) :
    write ∈ (world.tabs other).writes ∧ write.1 ≠ index ∧
      (other = tab → write.2.has index ∧ ¬ client.has write.1) := by
  have hhead : (index, client) ∈ (world.tabs tab).writes := hwrites ▸ List.mem_cons_self
  obtain ⟨performer, hrecord, htab, -, has⟩ := inv.queued tab _ hhead
  have hordered := inv.ordered tab
  rw [hwrites] at hordered
  unfold World.served at hwrite
  rw [setTab_tabs] at hwrite
  split_ifs at hwrite with hsame
  · subst hsame
    have hpair := (List.pairwise_cons.mp hordered).1 write hwrite
    refine ⟨hwrites ▸ List.mem_cons_of_mem _ hwrite, ?_, fun _ => hpair⟩
    rintro hindex
    exact hpair.2 (hindex ▸ has)
  · refine ⟨hwrite, ?_, fun h => absurd h hsame⟩
    rintro hindex
    obtain ⟨other', hrecord', htab', -, -⟩ := inv.queued other write hwrite
    rw [hindex] at hrecord'
    cases hrecord.symm.trans hrecord'
    exact hsame (htab'.symm.trans htab)

theorem Inv.served_pending (inv : Inv world)
    (hwrites : (world.tabs tab).writes = (index, client) :: writes) {performer : Call}
    (hrecord : world.record other = some performer) (persists : performer.phase.persists = true)
    (hne : other ≠ index) :
    ∃ held, (other, held) ∈ ((world.served tab writes).tabs performer.tab).writes := by
  obtain ⟨held, hheld⟩ := inv.pending other performer hrecord persists
  refine ⟨held, ?_⟩
  unfold World.served
  rw [setTab_tabs]
  split_ifs with hsame
  · rw [hsame, hwrites] at hheld
    rcases List.mem_cons.mp hheld with heq | hrest
    · exact absurd (congrArg Prod.fst heq) hne
    · exact hrest
  · exact hheld

theorem Inv.head_lacks (inv : Inv world)
    (hwrites : (world.tabs tab).writes = (index, client) :: writes) {performer : Call}
    (hrecord : world.record other = some performer) (persists : performer.phase.persists = true)
    (hne : other ≠ index) : ¬ client.has other := by
  obtain ⟨queued, hqueued, htab, hpersists, -⟩ := inv.queued tab _ (hwrites ▸ List.mem_cons_self)
  obtain ⟨held, hheld⟩ := inv.served_pending hwrites hrecord persists hne
  have hsame := (inv.oneTab _ _ _ _ hrecord persists hqueued hpersists).trans htab
  exact ((inv.served_writes hwrites hheld).2.2 hsame).2

theorem Inv.tail_has (inv : Inv world)
    (hwrites : (world.tabs tab).writes = (index, client) :: writes) {write : Nat × MlsClient}
    (hwrite : write ∈ ((world.served tab writes).tabs other).writes) : write.2.has index := by
  obtain ⟨queued, hqueued, htab, hpersists, -⟩ := inv.queued tab _ (hwrites ▸ List.mem_cons_self)
  obtain ⟨hold, -, hpair⟩ := inv.served_writes hwrites hwrite
  obtain ⟨performer, h, htab', persists, -⟩ := inv.queued other write hold
  have hsame := (inv.oneTab _ _ _ _ h persists hqueued hpersists).trans htab
  exact (hpair (htab'.symm.trans hsame)).1

/-- The call has ended its persisting, and no other record has changed. -/
structure Ends (world later : World) (index : Nat) (call : Call) (phase : Phase) : Prop where
  known : world.record index = some call
  persists : call.phase.persists = true
  before : phase.before = call.phase.before
  done : phase.persists = false
  sets : world.Sets later index { call with phase := phase }

variable {later : World} {phase : Phase} {performer : Call}

theorem Ends.persisting (ends : Ends world later index call phase)
    (h : later.record other = some performer) (persists : performer.phase.persists = true) :
    other ≠ index ∧ world.record other = some performer := by
  rcases ends.sets.cases h with ⟨-, rfl⟩ | hother
  · exact nomatch ends.done.symm.trans persists
  · exact hother

theorem Ends.built (ends : Ends world later index call phase) {performed : List Performed}
    (built : Built world.record performed) : Built later.record performed := by
  rw [ends.sets]
  refine built.update fun old hold => ?_
  cases ends.known.symm.trans hold
  exact ⟨rfl, ends.before⟩

theorem Ends.owing (ends : Ends world later index call phase) {earlier : List Performed}
    (h : later.record other = some performer) (owed : performer.phase.owed = true)
    (hearlier : performer.phase.before = some earlier) :
    ∃ old, world.record other = some old ∧ old.phase.owed = true ∧
      old.phase.before = some earlier := by
  rcases ends.sets.cases h with ⟨rfl, rfl⟩ | ⟨-, h⟩
  · exact ⟨call, ends.known, owed_of_persists ends.persists, ends.before.symm.trans hearlier⟩
  · exact ⟨performer, h, owed, hearlier⟩

theorem Inv.ends (inv : Inv world) (hwrites : (world.tabs tab).writes = (index, client) :: writes)
    (hcall : world.calls[index]? = some call) (hphase : call.phase = .persisting before)
    (outcome : phase = .returned before ∨ phase = .unpersisted before) (saved : Option MlsClient) :
    Ends world { (world.served tab writes).setPhase index call phase with saved := saved } index
      call phase := by
  obtain ⟨queued, hqueued, -, persists, -⟩ := inv.queued tab _ (hwrites ▸ List.mem_cons_self)
  cases (record_eq_some.mp hqueued).1.symm.trans hcall
  have hbefore : phase.before = some before := by rcases outcome with rfl | rfl <;> rfl
  refine ⟨hqueued, persists, by rw [hbefore, hphase]; rfl, ?_, ?_⟩
  · rcases outcome with rfl | rfl <;> rfl
  · have hserved : (world.served tab writes).calls[index]? = some call := hcall
    have h := record_setPhase hserved phase
    rw [if_pos (by rw [hbefore]; rfl)] at h
    exact h

/-- The snapshot is written, or its write fails. -/
theorem Inv.persist (inv : Inv world)
    (hwrites : (world.tabs tab).writes = (index, client) :: writes)
    (hcall : world.calls[index]? = some call) (hphase : call.phase = .persisting before)
    {saved : Option MlsClient} (outcome : phase = .returned before ∧ saved = some client ∨
      phase = .unpersisted before ∧ saved = world.saved) :
    Inv { (world.served tab writes).setPhase index call phase with saved := saved } := by
  have hhead : (index, client) ∈ (world.tabs tab).writes := hwrites ▸ List.mem_cons_self
  have ends := inv.ends hwrites hcall hphase (outcome.imp And.left And.left) saved
  refine { savedBuilt := ?savedBuilt, loadedBuilt := ?loadedBuilt, writesBuilt := ?writesBuilt
           fresh := ?fresh, own := ?own, queued := ?queued, pending := ?pending
           ordered := ?ordered, unsaved := ?unsaved, unshared := ?unshared, oneTab := ?oneTab
           returned := ?returned, carried := ?carried, chained := ?chained }
  case savedBuilt =>
    intro held hsaved
    rcases outcome with ⟨-, rfl⟩ | ⟨-, rfl⟩
    · cases hsaved
      exact ends.built (inv.writesBuilt tab _ hhead)
    · exact ends.built (inv.savedBuilt held hsaved)
  case loadedBuilt =>
    exact fun other held h => ends.built (inv.loadedBuilt other held (served_loaded.mp h))
  case writesBuilt =>
    exact fun other write hwrite =>
      ends.built (inv.writesBuilt other write (inv.served_writes hwrites hwrite).1)
  case fresh =>
    intro other held h
    change ((world.setTab tab _).tabs other).clientInstance = _ at h
    rw [setTab_tabs] at h
    split_ifs at h with hsame
    · exact inv.fresh tab held h
    · exact inv.fresh other held h
  case own =>
    intro other performer h
    obtain ⟨held, hheld, hhas⟩ : ∃ held, world.Loaded performer.tab held ∧ held.has other := by
      rcases ends.sets.cases h with ⟨rfl, rfl⟩ | ⟨-, h⟩
      · exact inv.own other call ends.known
      · exact inv.own other performer h
    exact ⟨held, served_loaded.mpr hheld, hhas⟩
  case queued =>
    intro other write hwrite
    obtain ⟨hold, hne, -⟩ := inv.served_writes hwrites hwrite
    obtain ⟨performer, h, hsame⟩ := inv.queued other write hold
    exact ⟨performer, ends.sets.kept hne h, hsame⟩
  case pending =>
    intro other performer h persists
    obtain ⟨hsame, h⟩ := ends.persisting h persists
    exact inv.served_pending hwrites h persists hsame
  case ordered =>
    intro other
    change ((world.setTab tab _).tabs other).writes.Pairwise _
    rw [setTab_tabs]
    have hordered := inv.ordered tab
    rw [hwrites] at hordered
    split_ifs
    · exact (List.pairwise_cons.mp hordered).2
    · exact inv.ordered other
  case unsaved =>
    intro other performer h persists held hsaved
    obtain ⟨hsame, hold⟩ := ends.persisting h persists
    rcases outcome with ⟨-, rfl⟩ | ⟨-, rfl⟩
    · cases hsaved
      exact inv.head_lacks hwrites hold persists hsame
    · exact inv.unsaved other performer hold persists held hsaved
  case unshared =>
    intro other performer h persists elsewhere held hne hheld
    exact inv.unshared other performer (ends.persisting h persists).2 persists elsewhere held hne
      (served_loaded.mp hheld)
  case oneTab =>
    intro first second performer performer' h persists h' persists'
    exact inv.oneTab first second performer performer' (ends.persisting h persists).2 persists
      (ends.persisting h' persists').2 persists'
  case returned =>
    intro other performer h hreturned
    rcases outcome with ⟨rfl, rfl⟩ | ⟨rfl, rfl⟩
    · refine ⟨client, rfl, ?_⟩
      rcases ends.sets.cases h with ⟨rfl, -⟩ | ⟨-, h⟩
      · obtain ⟨-, -, -, -, has⟩ := inv.queued tab _ hhead
        exact has
      · exact inv.carried other performer h hreturned tab _ hhead
    · rcases ends.sets.cases h with ⟨-, rfl⟩ | ⟨-, h⟩
      · cases hreturned
      · exact inv.returned other performer h hreturned
  case carried =>
    intro other performer h hreturned elsewhere write hwrite
    rcases ends.sets.cases h with ⟨rfl, -⟩ | ⟨-, h⟩
    · exact inv.tail_has hwrites hwrite
    · exact inv.carried other performer h hreturned elsewhere write
        (inv.served_writes hwrites hwrite).1
  case chained =>
    intro first second performer performer' earlier earlier' hne h owed hearlier h' owed' hearlier'
    obtain ⟨old, hold, hold_owed, hold_before⟩ := ends.owing h owed hearlier
    obtain ⟨old', hold', hold_owed', hold_before'⟩ := ends.owing h' owed' hearlier'
    exact inv.chained first second old old' earlier earlier' hne hold hold_owed hold_before hold'
      hold_owed' hold_before'

end

section

variable {world next : World} {event : Event} {events : List Event} {label : Option String}

theorem World.loaded_inj {tab : Nat} {clientInstance : Instance}
    (h : (world.tabs tab).clientInstance = clientInstance)
    (hne : ∀ client, clientInstance ≠ .loaded client) (client : MlsClient) :
    ¬ world.Loaded tab client :=
  fun hloaded => hne client (h.symm.trans hloaded)

theorem Inv.step (inv : Inv world) (guard : Guard event world)
    (h : step event world = some next) : Inv next := by
  cases event with
  | call tab operation =>
    cases h
    exact inv.mlsClient operation
  | initWasm tab succeeds =>
    unfold MlsTabs.step at h
    dsimp only at h
    split at h
    · next hinstance =>
        have unloaded := World.loaded_inj hinstance nofun
        cases h
        split
        · exact inv.setInstance unloaded nofun nofun
        · exact inv.rejectInstance unloaded
    · cases h
  | readSaved tab label succeeds =>
    unfold MlsTabs.step at h
    dsimp only at h
    split at h
    · next hinstance =>
        have unloaded := World.loaded_inj hinstance nofun
        cases h
        split
        · split
          · next client hsaved => exact inv.importState unloaded hsaved
          · refine inv.setInstance unloaded nofun fun client hclient => ?_
            obtain rfl := Instance.storing.inj hclient
            rfl
        · exact inv.rejectInstance unloaded
    · cases h
  | storeFresh tab succeeds =>
    unfold MlsTabs.step at h
    dsimp only at h
    split at h
    · next client hinstance =>
        have covers : succeeds = true → world.Covers tab client := by
          rintro rfl
          unfold Guard at guard
          dsimp only at guard
          rw [hinstance] at guard
          exact guard
        cases h
        split
        · next hsucceeds => exact inv.storeFresh hinstance (covers hsucceeds)
        · exact inv.rejectInstance (World.loaded_inj hinstance nofun)
    · cases h
  | perform index succeeds =>
    unfold MlsTabs.step at h
    dsimp only at h
    split at h
    · next call hcall =>
        split at h
        · next client hphase hinstance =>
            have covers : succeeds = true → world.Covers call.tab client := by
              rintro rfl
              unfold Guard at guard
              dsimp only at guard
              rw [hcall] at guard
              dsimp only at guard
              rw [hinstance] at guard
              exact guard
            cases h
            split
            · next hsucceeds => exact inv.perform hcall hphase hinstance (covers hsucceeds)
            · refine inv.quiet rfl (fun _ => rfl) (fun _ _ => Iff.rfl) inv.fresh ?_
              rw [record_setPhase hcall, if_neg (by decide)]
              have hnone := record_eq_none hcall (by rw [hphase]; rfl)
              rw [← hnone, Function.update_eq_self]
        · cases h
    · cases h
  | persist tab succeeds =>
    unfold MlsTabs.step at h
    dsimp only at h
    split at h
    · next index client writes hwrites =>
        split at h
        · next call hcall =>
            split at h
            · next before hphase =>
                cases h
                split
                · exact inv.persist hwrites hcall hphase (.inl ⟨rfl, rfl⟩)
                · exact inv.persist hwrites hcall hphase (.inr ⟨rfl, rfl⟩)
            · cases h
        · cases h
    · cases h

theorem Inv.neverRolledBack (inv : Inv world) : world.NeverRolledBack := by
  have hrecord : ∀ {index : Nat} {call : Call} {before : List Performed},
      world.calls[index]? = some call → call.phase = .returned before →
        world.record index = some call := by
    intro index call before hcall hphase
    exact record_eq_some.mpr ⟨hcall, by rw [hphase]; rfl⟩
  have earlier : ∀ {first second : Nat} {call other : Call} {groupId plaintext : String}
      {before after : List Performed}, world.calls[first]? = some call →
      call.operation = .sealApplication groupId plaintext → call.phase = .returned before →
      world.calls[second]? = some other → other.phase = .returned after →
      first ∈ after.map Performed.call → generation groupId before ≠ generation groupId after := by
    intro first second call other groupId plaintext before after hcall hseal hphase hother hreturned
      hmem
    have hrecord' := hrecord hother hreturned
    obtain ⟨client, loaded, has⟩ := inv.own second other hrecord'
    obtain ⟨later, position, hlater, -, hafter⟩ := (inv.loadedBuilt _ _ loaded).of_has has
    cases hrecord'.symm.trans hlater
    rw [hreturned] at hafter
    obtain rfl : after = client.performed.take position := Option.some.inj hafter
    have built : Built world.record (MlsClient.mk "" (client.performed.take position)).performed :=
      (inv.loadedBuilt _ _ loaded).take position
    obtain ⟨found, place, hfound, hplace, hbefore⟩ := built.of_has hmem
    cases (hrecord hcall hphase).symm.trans hfound
    rw [hphase] at hbefore
    cases hbefore
    rw [hseal] at hplace
    exact generation_ne hplace
  refine ⟨fun index call before hcall hphase => ?_, fun first second call other groupId plaintext
    text before after hne hcall hseal hphase hother hseal' hreturned => ?_⟩
  · obtain ⟨client, hsaved, has⟩ := inv.returned index call (hrecord hcall hphase)
      (by rw [hphase]; rfl)
    obtain ⟨found, position, hfound, hposition, -⟩ := (inv.savedBuilt client hsaved).of_has has
    cases (hrecord hcall hphase).symm.trans hfound
    exact ⟨client, hsaved, List.mem_of_getElem? hposition⟩
  · rcases inv.chained first second call other before after hne (hrecord hcall hphase)
      (by rw [hphase]; rfl) (by rw [hphase]; rfl) (hrecord hother hreturned)
      (by rw [hreturned]; rfl) (by rw [hreturned]; rfl) with hmem | hmem
    · exact earlier hcall hseal hphase hother hreturned hmem
    · exact (earlier hother hseal' hreturned hcall hphase hmem).symm

/-- As long as each tab performs operations, and stores a new client, only on a client that has
what the other tabs have performed, the stored snapshot has every operation whose call returned. -/
theorem never_rolled_back (label : Option String) (events : List Event) (final : World)
    (guarded : Guarded step Guard events (World.start label))
    (h : run step events (World.start label) = some final) : final.NeverRolledBack :=
  (invariant_of_run (fun _ _ _ (inv : Inv _) guard hstep => inv.step guard hstep)
    (Inv.start label) guarded h).neverRolledBack

end

def sampleSeal (tab : Nat) : Event := .call tab (.sealApplication "group" "hello")

/-- Tab `0` sends a message, and tab `1` loads the client after it. -/
def sampleInTurn : List Event := [
  sampleSeal 0, .initWasm 0 true, .readSaved 0 "" true, .perform 0 true, .persist 0 true,
  sampleSeal 1, .initWasm 1 true, .readSaved 1 "" true, .perform 1 true, .persist 1 true]

def sampleTogether : List Event := [
  sampleSeal 0, .initWasm 0 true, .readSaved 0 "" true,
  sampleSeal 1, .initWasm 1 true, .readSaved 1 "" true,
  .perform 0 true, .persist 0 true, .perform 1 true, .persist 1 true]

theorem never_rolled_back_in_turn :
    ∃ final, run step sampleInTurn (World.start (some "device")) = some final ∧
      final.NeverRolledBack ∧ (final.calls.map fun call => call.phase.hasReturned) = [true, true] :=
  ⟨_, rfl, never_rolled_back (some "device") sampleInTurn _ (by decide) rfl, rfl⟩

/-- The second tab overwrites the snapshot of the first, whose seal has returned, and seals in the
same generation. -/
theorem tabs_roll_back :
    ∃ final, run step sampleTogether (World.start (some "device")) = some final ∧
      ¬ final.NeverRolledBack ∧
      (final.saved.map fun client => client.performed.map Performed.call) = some [1] ∧
      final.calls.map Call.phase = [.returned [], .returned []] := by
  refine ⟨_, rfl, fun h => ?_, rfl, rfl⟩
  obtain ⟨client, hsaved, hmem⟩ := h.stored 0 _ _ rfl rfl
  cases hsaved
  revert hmem
  decide

end JbChat.Client.MlsTabs
