/- source: src/lib/messaging/conversation.ts
   digest: The Welcomes of a device and its group map, under calls that take turns. -/

import JbChat.Client.GroupState
import JbChat.Foundation.Interference

/-!
The calls of a device share its group map. A watch beside each call notes the map it read last, the
conversations whose entries other calls have changed since it began, and the Welcomes it was offered
and could not process; the calls do not see it.
-/

set_option autoImplicit false

namespace JbChat.Client.WelcomeSync

open Foundation.Await Foundation.GuardedRun Foundation.Interference Conversation GroupState

section

structure Watch where
  read : GroupMap
  touched : List String
  offered : List WelcomeEntry
  failed : List String

def Watch.fresh : Watch := ⟨[], [], [], []⟩

structure Watched where
  world : World
  watches : Nat → Watch

/-- The conversations whose entries differ. -/
def changed (stored map : GroupMap) : List String :=
  ((stored ++ map).map Prod.fst).filter fun conversationId =>
    decide (stored.lookup conversationId ≠ map.lookup conversationId)

def note (index : Nat) (stored : GroupMap) (watches : Nat → Watch) :
    (op : Op) → op.Answer → Nat → Watch
  | .readGroupMap, map => Function.update watches index { watches index with read := map }
  | .writeGroupMap map, _ => fun other =>
    if other = index then watches index
    else { watches other with touched := changed stored map ++ (watches other).touched }
  | .getWelcomes _, .accepted entries =>
    Function.update watches index { watches index with offered := entries }
  | .joinMlsWelcome welcome, none =>
    Function.update watches index { watches index with
      failed := welcome :: (watches index).failed }
  | _, _ => watches

variable (installationId : String) (mls : Mls) (sha256 : String → String)

def handle (index : Nat) (op : Op) (choice : Choice) (watched : Watched) : op.Answer × Watched :=
  let (reply, world) := answer installationId mls op choice watched.world
  (reply, ⟨world, note index watched.world.map watched.watches op reply⟩)

abbrev Calls := Pool Op Op.Answer String Unit Watched

/-- A call of the device begins, goes on, or something is appended to a log of the server. -/
inductive Event where
  | start (call : DeviceCall)
  | resume (index : Nat) (choice : Choice)
  | other (conversationId : String) (entry : StoredEnvelope) (welcome : Option String)

def step (event : Event) (calls : Calls) : Option Calls :=
  match event with
  | .start call => some {
      shared := { calls.shared with
        watches := Function.update calls.shared.watches calls.calls.length Watch.fresh }
      calls := calls.calls ++ [call.program installationId sha256 calls.shared.world] }
  | .resume index choice => calls.take (handle installationId mls) (.resume index choice)
  | .other conversationId entry welcome =>
    let world := calls.shared.world
    if world.admits installationId mls conversationId entry welcome then
      some { calls with shared := { calls.shared with world := { world with
        logs := assign conversationId ((world.logs.lookup conversationId).getD [] ++ [entry])
          world.logs
        welcomes := world.welcomes ++
          welcome.toList.map fun welcome => ⟨conversationId, welcome, entry.position⟩ } } }
    else none

def start : Calls := ⟨⟨World.fresh, fun _ => Watch.fresh⟩, []⟩

end

section

def covered (map : GroupMap) (entry : WelcomeEntry) : Bool :=
  (asRecord (map.lookup entry.conversationId)).any fun record =>
    decide (entry.commitPosition ≤ record.processedPosition)

/-- No Welcome that the call was offered is of a later Commit than the recorded group. -/
def NoneLater (watched : Watched) (index : Nat) : Prop :=
  ∀ entry ∈ (watched.watches index).offered,
    asRecord (watched.world.map.lookup entry.conversationId) = none ∨
      covered watched.world.map entry = true

instance (watched : Watched) (index : Nat) : Decidable (NoneLater watched index) :=
  inferInstanceAs (Decidable (∀ entry ∈ _, _))

variable (installationId : String) (mls : Mls)

/-- A call writes the map that it read, and no other call has changed since it began the entry that
it changes; no offered Welcome is of a later Commit than the recorded group, and when one cannot be
processed there is none left to join. -/
def guard (index : Nat) (op : Op) (choice : Choice) (watched : Watched) : Prop :=
  match op with
  | .readGroupMap => NoneLater watched index
  | .writeGroupMap map => watched.world.map = (watched.watches index).read ∧
      ∀ conversationId ∈ changed watched.world.map map,
        conversationId ∉ (watched.watches index).touched
  | .joinMlsWelcome welcome =>
    (answer installationId mls (.joinMlsWelcome welcome) choice watched.world).1.isSome ∨
      ∀ entry ∈ (watched.watches index).offered, entry.welcome = welcome ∨
        entry.welcome ∈ (watched.watches index).failed ∨ covered watched.world.map entry = true
  | _ => True

instance guard.decide (index : Nat) (op : Op) (choice : Choice) (watched : Watched) :
    Decidable (guard installationId mls index op choice watched) := by
  unfold guard
  split <;> infer_instance

def Guard (event : Event) (calls : Calls) : Prop :=
  match event with
  | .resume index choice =>
    match calls.calls[index]? with
    | some (.await op _) => guard installationId mls index op choice calls.shared
    | _ => True
  | _ => True

instance Guard.decide (event : Event) (calls : Calls) :
    Decidable (Guard installationId mls event calls) := by
  unfold Guard
  split
  · split <;> infer_instance
  · infer_instance

/-- A map that is written keeps the entries that its call has not changed as they are stored, and
lowers no position within a group. -/
def Isolates (index : Nat) (map : GroupMap) (watched : Watched) : Prop :=
  (∀ conversationId, map.lookup conversationId =
      (watched.watches index).read.lookup conversationId →
        watched.world.map.lookup conversationId = map.lookup conversationId) ∧
    ∀ (conversationId : String) (record record' : GroupRecord),
      asRecord (watched.world.map.lookup conversationId) = some record →
        asRecord (map.lookup conversationId) = some record' → record'.groupId = record.groupId →
          record.processedPosition ≤ record'.processedPosition

/-- Each write of the map isolates the conversations. -/
def Isolated (event : Event) (calls : Calls) : Prop :=
  match event with
  | .resume index _ =>
    match calls.calls[index]? with
    | some (.await (.writeGroupMap map) _) => Isolates index map calls.shared
    | _ => True
  | _ => True

/-- What became of the Welcomes that a call was offered. -/
def Settled (index : Nat) (watched : Watched) : Prop :=
  ∀ entry ∈ (watched.watches index).offered,
    entry.welcome ∈ (watched.watches index).failed ∨ covered watched.world.map entry = true

/-- The groups of all Welcomes that a call was offered are joined at its end, but for those that it
could not process. -/
def Complete (calls : Calls) : Prop :=
  ∀ index call, calls.calls[index]? = some call → (∀ op rest, call ≠ .await op rest) →
    Settled index calls.shared

end

section

variable {installationId : String} {mls : Mls} {world : World} {stored map : GroupMap}
  {conversationId : String} {log : List StoredEnvelope} {later : World}

theorem mem_changed :
    conversationId ∈ changed stored map ↔
      stored.lookup conversationId ≠ map.lookup conversationId := by
  unfold changed
  rw [List.mem_filter, decide_eq_true_eq]
  refine ⟨fun h => h.2, fun hne => ⟨?_, hne⟩⟩
  have hkey : ∀ {entries : GroupMap} {value : StoredGroup},
      entries.lookup conversationId = some value → conversationId ∈ entries.map Prod.fst := by
    intro entries value h
    obtain ⟨before, after, rfl, -⟩ := List.lookup_eq_some_iff.mp h
    simp
  rw [List.map_append, List.mem_append]
  cases hstored : stored.lookup conversationId with
  | some value => exact .inl (hkey hstored)
  | none =>
    cases hmap : map.lookup conversationId with
    | some value => exact .inr (hkey hmap)
    | none => exact absurd (hstored.trans hmap.symm) hne

def LogsGrow (world later : World) : Prop :=
  ∀ (conversationId : String) (log : List StoredEnvelope),
    world.logs.lookup conversationId = some log →
      ∃ grown, later.logs.lookup conversationId = some grown ∧ log.length ≤ grown.length

theorem LogsGrow.refl (world : World) : LogsGrow world world :=
  fun _ log h => ⟨log, h, Nat.le_refl _⟩

theorem LogsGrow.trans {first second third : World} (h : LogsGrow first second)
    (h' : LogsGrow second third) : LogsGrow first third := by
  intro conversationId log hlog
  obtain ⟨grown, hgrown, hle⟩ := h conversationId log hlog
  obtain ⟨last, hlast, hle'⟩ := h' conversationId grown hgrown
  exact ⟨last, hlast, hle.trans hle'⟩

theorem LogsGrow.assign (hlogs : later.logs = assign conversationId log world.logs)
    (grows : ∀ old, world.logs.lookup conversationId = some old → old.length ≤ log.length) :
    LogsGrow world later := by
  intro other old hold
  rw [hlogs]
  by_cases hsame : other = conversationId
  · subst hsame
    exact ⟨log, lookup_assign_self, grows old hold⟩
  · exact ⟨old, (lookup_assign_of_ne hsame).trans hold, Nat.le_refl _⟩

/-- Recorded positions and those of Welcomes are positions of the logs. -/
structure Placed (world : World) : Prop where
  records : ∀ (conversationId : String) (record : GroupRecord),
    asRecord (world.map.lookup conversationId) = some record →
      ∃ log, world.logs.lookup conversationId = some log ∧
        record.processedPosition ≤ log.length
  welcomes : ∀ entry ∈ world.welcomes, ∃ log,
    world.logs.lookup entry.conversationId = some log ∧ entry.commitPosition ≤ log.length
  numbered : ∀ (conversationId : String) (log : List StoredEnvelope),
    world.logs.lookup conversationId = some log → ∀ entry ∈ log, entry.position ≤ log.length

theorem Placed.fresh : Placed World.fresh := ⟨nofun, nofun, nofun⟩

theorem Placed.grow (placed : Placed world) (hmap : later.map = world.map)
    (hwelcomes : later.welcomes = world.welcomes) (grow : LogsGrow world later)
    (numbered : ∀ (conversationId : String) (log : List StoredEnvelope),
      later.logs.lookup conversationId = some log → ∀ entry ∈ log, entry.position ≤ log.length) :
    Placed later where
  records conversationId record hrecord := by
    rw [hmap] at hrecord
    obtain ⟨log, hlog, hle⟩ := placed.records conversationId record hrecord
    obtain ⟨grown, hgrown, hle'⟩ := grow conversationId log hlog
    exact ⟨grown, hgrown, hle.trans hle'⟩
  welcomes entry hentry := by
    rw [hwelcomes] at hentry
    obtain ⟨log, hlog, hle⟩ := placed.welcomes entry hentry
    obtain ⟨grown, hgrown, hle'⟩ := grow entry.conversationId log hlog
    exact ⟨grown, hgrown, hle.trans hle'⟩
  numbered := numbered

theorem Placed.assign_log (placed : Placed world) (hmap : later.map = world.map)
    (hwelcomes : later.welcomes = world.welcomes)
    (hlogs : later.logs = assign conversationId log world.logs)
    (grows : ∀ old, world.logs.lookup conversationId = some old → old.length ≤ log.length)
    (numbered : ∀ entry ∈ log, entry.position ≤ log.length) : Placed later := by
  refine placed.grow hmap hwelcomes (.assign hlogs grows) fun other found hfound => ?_
  rw [hlogs] at hfound
  by_cases hsame : other = conversationId
  · rw [hsame, lookup_assign_self] at hfound
    cases hfound
    exact numbered
  · rw [lookup_assign_of_ne hsame] at hfound
    exact placed.numbered other found hfound

theorem numbered_append {entry : StoredEnvelope}
    (numbered : ∀ entry ∈ log, entry.position ≤ log.length)
    (position : entry.position = log.length + 1) :
    ∀ other ∈ log ++ [entry], other.position ≤ (log ++ [entry]).length := by
  intro other hother
  rw [List.length_append, List.length_singleton]
  rcases List.mem_append.mp hother with hold | hnew
  · exact (numbered other hold).trans (Nat.le_succ _)
  · obtain rfl := List.mem_singleton.mp hnew
    omega

/-- Only a write of the map changes the map; one log at most is extended. -/
theorem answer_frame (op : Op) (choice : Choice) (hop : ∀ map, op ≠ .writeGroupMap map) :
    let later := (answer installationId mls op choice world).2
    later.map = world.map ∧ later.welcomes = world.welcomes ∧
      (later.logs = world.logs ∨ ∃ conversationId log,
        later.logs = assign conversationId log world.logs ∧
          (∀ old, world.logs.lookup conversationId = some old → old.length ≤ log.length) ∧
          (Placed world → ∀ entry ∈ log, entry.position ≤ log.length)) := by
  have same : ∀ {later : World}, later.map = world.map → later.welcomes = world.welcomes →
      later.logs = world.logs → later.map = world.map ∧ later.welcomes = world.welcomes ∧
      (later.logs = world.logs ∨ ∃ conversationId log,
        later.logs = assign conversationId log world.logs ∧
          (∀ old, world.logs.lookup conversationId = some old → old.length ≤ log.length) ∧
          (Placed world → ∀ entry ∈ log, entry.position ≤ log.length)) :=
    fun hmap hwelcomes hlogs => ⟨hmap, hwelcomes, .inl hlogs⟩
  dsimp only
  cases op with
  | writeGroupMap map => exact absurd rfl (hop map)
  | createMlsGroup groupId =>
    rcases GroupState.answer_createMlsGroup choice world groupId with h | ⟨-, h⟩
    · rw [h]
      exact same rfl rfl rfl
    · rw [h]
      exact same rfl rfl rfl
  | addMlsMembers groupId keyPackages =>
    rcases GroupState.answer_addMlsMembers choice world groupId keyPackages with
      h | ⟨_, _, -, -, -, h⟩
    · rw [h]
      exact same rfl rfl rfl
    · rw [h]
      exact same rfl rfl rfl
  | removeMlsMember groupId signatureKey =>
    rcases GroupState.answer_removeMlsMember choice world groupId signatureKey with
      h | ⟨_, _, -, -, -, h⟩
    · rw [h]
      exact same rfl rfl rfl
    · rw [h]
      exact same rfl rfl rfl
  | joinMlsWelcome welcome =>
    rcases GroupState.answer_joinMlsWelcome choice world welcome with h | ⟨_, _, -, -, h⟩
    · rw [h]
      exact same rfl rfl rfl
    · rw [h]
      exact same rfl rfl rfl
  | processMlsCommit groupId commit =>
    rcases GroupState.answer_processMlsCommit choice world groupId commit with
      h | ⟨_, -, -, h⟩
    · rw [h]
      exact same rfl rfl rfl
    · rw [h]
      exact same rfl rfl rfl
  | getEnvelope conversationId envelopeId =>
    rw [(GroupState.answer_getEnvelope conversationId envelopeId).1]
    exact same rfl rfl rfl
  | getWelcomes installation =>
    unfold answer
    dsimp only
    split
    · exact same rfl rfl rfl
    · exact same rfl rfl rfl
  | postConversation input =>
    unfold answer
    dsimp only
    split_ifs with heffect
    · have hnone : world.logs.lookup input.conversationId = none := by
        have h := (Bool.and_eq_true_iff.mp heffect).2
        unfold World.canActivate at h
        exact Option.isNone_iff_eq_none.mp (Bool.and_eq_true_iff.mp h).1
      have hgrows : ∀ old, world.logs.lookup input.conversationId = some old →
          old.length ≤ 1 := by
        intro old hold
        rw [hnone] at hold
        cases hold
      refine ⟨rfl, rfl, .inr ⟨_, _, rfl, hgrows, fun _ entry hentry => ?_⟩⟩
      obtain rfl := List.mem_singleton.mp hentry
      exact Nat.le_refl _
    · exact same rfl rfl rfl
  | postCommit conversationId input =>
    unfold answer
    dsimp only
    split
    · next log _ hlog =>
        have hstored : world.logs.lookup conversationId = some log :=
          (Option.filter_eq_some_iff.mp hlog).1
        refine ⟨rfl, rfl, .inr ⟨_, _, rfl, fun old hold => ?_, fun placed =>
          numbered_append (placed.numbered _ log hstored) rfl⟩⟩
        cases hstored.symm.trans hold
        rw [List.length_append]
        exact Nat.le_add_right _ _
    · exact same rfl rfl rfl
  | _ => exact same rfl rfl rfl

theorem answer_logs (op : Op) (choice : Choice) (hop : ∀ map, op ≠ .writeGroupMap map) :
    LogsGrow world (answer installationId mls op choice world).2 := by
  obtain ⟨-, -, hlogs | ⟨_, _, hlogs, hgrows, -⟩⟩ :=
    @answer_frame installationId mls world op choice hop
  · exact fun _ log hlog => ⟨log, hlogs ▸ hlog, Nat.le_refl _⟩
  · exact .assign hlogs hgrows

theorem answer_placed (op : Op) (choice : Choice) (hop : ∀ map, op ≠ .writeGroupMap map)
    (placed : Placed world) : Placed (answer installationId mls op choice world).2 := by
  obtain ⟨hmap, hwelcomes, hlogs | ⟨_, _, hlogs, hgrows, hnumbered⟩⟩ :=
    @answer_frame installationId mls world op choice hop
  · exact placed.grow hmap hwelcomes (answer_logs op choice hop) fun conversationId log hlog =>
      placed.numbered conversationId log (hlogs ▸ hlog)
  · exact placed.assign_log hmap hwelcomes hlogs hgrows (hnumbered placed)

end

section

variable {installationId : String} {mls : Mls} {index : Nat} {first second third : Watched}
  {other : Nat}

/-- No entry disappears or changes its group, and no position decreases. -/
def Advances (stored map : GroupMap) : Prop :=
  ∀ (conversationId : String) (record : GroupRecord),
    asRecord (stored.lookup conversationId) = some record →
      ∃ record', asRecord (map.lookup conversationId) = some record' ∧
        record'.groupId = record.groupId ∧
        record.processedPosition ≤ record'.processedPosition

theorem Advances.refl (map : GroupMap) : Advances map map :=
  fun _ record h => ⟨record, h, rfl, Nat.le_refl _⟩

theorem Advances.trans {stored map last : GroupMap} (h : Advances stored map)
    (h' : Advances map last) : Advances stored last := by
  intro conversationId record hrecord
  obtain ⟨record', hrecord', hgroup, hle⟩ := h conversationId record hrecord
  obtain ⟨final, hfinal, hgroup', hle'⟩ := h' conversationId record' hrecord'
  exact ⟨final, hfinal, hgroup'.trans hgroup, hle.trans hle'⟩

theorem Advances.covered {stored map : GroupMap} (h : Advances stored map) {entry : WelcomeEntry}
    (hcovered : covered stored entry = true) : covered map entry = true := by
  unfold WelcomeSync.covered at hcovered ⊢
  cases hrecord : asRecord (stored.lookup entry.conversationId) with
  | none =>
    rw [hrecord] at hcovered
    cases hcovered
  | some record =>
    rw [hrecord, Option.any_some] at hcovered
    obtain ⟨record', hrecord', -, hle'⟩ := h entry.conversationId record hrecord
    rw [hrecord', Option.any_some]
    exact decide_eq_true ((of_decide_eq_true hcovered).trans hle')

/-- What a call keeps between and in its turns, as long as it does not write the map: the entries
that no other call has changed are as they were. -/
structure Kept (index : Nat) (first second : Watched) : Prop where
  offered : (second.watches index).offered = (first.watches index).offered
  failed : ∀ welcome ∈ (first.watches index).failed, welcome ∈ (second.watches index).failed
  touched : ∀ conversationId ∈ (first.watches index).touched,
    conversationId ∈ (second.watches index).touched
  entries : ∀ conversationId, conversationId ∉ (second.watches index).touched →
    second.world.map.lookup conversationId = first.world.map.lookup conversationId
  advances : Advances first.world.map second.world.map
  logs : LogsGrow first.world second.world
  placed : Placed first.world → Placed second.world

/-- What the other calls do while a call awaits. -/
structure Rely (index : Nat) (first second : Watched) : Prop where
  kept : Kept index first second
  read : (second.watches index).read = (first.watches index).read

theorem Kept.refl (index : Nat) (watched : Watched) : Kept index watched watched :=
  ⟨rfl, fun _ h => h, fun _ h => h, fun _ _ => rfl, .refl _, .refl _, fun h => h⟩

theorem Kept.trans (h : Kept index first second) (h' : Kept index second third) :
    Kept index first third where
  offered := h'.offered.trans h.offered
  failed welcome hwelcome := h'.failed welcome (h.failed welcome hwelcome)
  touched conversationId hmem := h'.touched conversationId (h.touched conversationId hmem)
  entries conversationId hnot :=
    (h'.entries conversationId hnot).trans
      (h.entries conversationId fun hmem => hnot (h'.touched conversationId hmem))
  advances := h.advances.trans h'.advances
  logs := h.logs.trans h'.logs
  placed hplaced := h'.placed (h.placed hplaced)

theorem Rely.refl (index : Nat) (watched : Watched) : Rely index watched watched :=
  ⟨.refl index watched, rfl⟩

theorem Rely.trans (h : Rely index first second) (h' : Rely index second third) :
    Rely index first third :=
  ⟨h.kept.trans h'.kept, h'.read.trans h.read⟩

/-- What each turn of a call is to be. -/
def Turn (installationId : String) (mls : Mls) (index : Nat) (op : Op) (choice : Choice)
    (watched : Watched) : Prop :=
  (Placed watched.world → Placed (handle installationId mls index op choice watched).2.world) ∧
    ∀ map, op = .writeGroupMap map → Isolates index map watched ∧ Advances watched.world.map map

theorem note_other (hother : other ≠ index) (stored : GroupMap) (watches : Nat → Watch) (op : Op)
    (reply : op.Answer)
    (hop : ∀ map, op ≠ .writeGroupMap map) : note index stored watches op reply other =
      watches other := by
  unfold note
  split
  · exact Function.update_of_ne hother ..
  · next map _ => exact absurd rfl (hop map)
  · exact Function.update_of_ne hother ..
  · exact Function.update_of_ne hother ..
  · rfl

theorem Turn.disturbs {op : Op} {choice : Choice} {watched : Watched} (hother : other ≠ index)
    (turn : Turn installationId mls index op choice watched) :
    Rely other watched (handle installationId mls index op choice watched).2 := by
  by_cases hop : ∃ map, op = .writeGroupMap map
  · obtain ⟨map, rfl⟩ := hop
    obtain ⟨placed, hwrites⟩ := turn
    have hwatch : ((handle installationId mls index (.writeGroupMap map) choice
        watched).2.watches other) = { watched.watches other with
          touched := changed watched.world.map map ++ (watched.watches other).touched } := by
      unfold handle note
      dsimp only
      rw [if_neg hother]
    refine ⟨⟨?_, ?_, ?_, ?_, (hwrites map rfl).2, .refl _, placed⟩, ?_⟩
    · rw [hwatch]
    · rw [hwatch]
      exact fun _ h => h
    · rw [hwatch]
      exact fun _ h => List.mem_append_right _ h
    · intro conversationId hnot
      rw [hwatch] at hnot
      have hsame : conversationId ∉ changed watched.world.map map :=
        fun hmem => hnot (List.mem_append_left _ hmem)
      rw [mem_changed, not_not] at hsame
      exact hsame.symm
    · rw [hwatch]
  · have hop : ∀ map, op ≠ .writeGroupMap map := fun map h => hop ⟨map, h⟩
    have hwatch : ((handle installationId mls index op choice watched).2.watches other) =
        watched.watches other := note_other hother _ _ op _ hop
    have hmap : (handle installationId mls index op choice watched).2.world.map =
        watched.world.map := (answer_frame op choice hop).1
    refine ⟨⟨?_, ?_, ?_, ?_, ?_, ?_, turn.1⟩, ?_⟩
    · rw [hwatch]
    · rw [hwatch]
      exact fun _ h => h
    · rw [hwatch]
      exact fun _ h => h
    · exact fun _ _ => congrArg (List.lookup _) hmap
    · rw [hmap]
      exact .refl _
    · exact answer_logs op choice hop
    · rw [hwatch]

end

section

variable {installationId : String} {mls : Mls} {index : Nat} {before watched : Watched}
  {conversationId groupId : String} {position : Nat} {α : Type} {op : Op}

/-- Whatever the others do, each turn of the call isolates the conversations, and it settles what it
is offered. -/
abbrev Settles (installationId : String) (mls : Mls) (index : Nat) (program : Call α)
    (watched : Watched) : Prop :=
  Withstands (handle installationId mls index) (guard installationId mls index)
    (Turn installationId mls index) (Rely index) (Settled index) program watched

theorem note_self (stored : GroupMap) (watches : Nat → Watch) (op : Op) (reply : op.Answer)
    (hop : ∀ map, op ≠ .writeGroupMap map)
    (hwelcomes : ∀ installation, op ≠ .getWelcomes installation) :
    let noted := note index stored watches op reply index
    noted.offered = (watches index).offered ∧
      (∀ welcome ∈ (watches index).failed, welcome ∈ noted.failed) ∧
      noted.touched = (watches index).touched := by
  unfold note
  dsimp only
  split
  · rw [Function.update_self]
    exact ⟨rfl, fun _ h => h, rfl⟩
  · next map _ => exact absurd rfl (hop map)
  · next installation _ => exact absurd rfl (hwelcomes installation)
  · rw [Function.update_self]
    exact ⟨rfl, fun _ h => List.mem_cons_of_mem _ h, rfl⟩
  · exact ⟨rfl, fun _ h => h, rfl⟩

/-- Neither the map nor the list of Welcomes is touched. -/
def isPlain : Op → Bool
  | .writeGroupMap _ | .getWelcomes _ => false
  | _ => true

theorem plain_ne (plain : isPlain op = true) :
    (∀ map, op ≠ .writeGroupMap map) ∧ ∀ installation, op ≠ .getWelcomes installation := by
  constructor <;> rintro _ rfl <;> cases plain

theorem handle_kept {choice : Choice} (hop : ∀ map, op ≠ .writeGroupMap map)
    (hwelcomes : ∀ installation, op ≠ .getWelcomes installation) :
    Kept index watched (handle installationId mls index op choice watched).2 := by
  have hmap : (handle installationId mls index op choice watched).2.world.map =
      watched.world.map := (answer_frame op choice hop).1
  have hwatch := @note_self index watched.world.map watched.watches op
    (answer installationId mls op choice watched.world).1 hop hwelcomes
  exact {
    offered := hwatch.1
    failed := hwatch.2.1
    touched := fun _ h => hwatch.2.2.symm ▸ h
    entries := fun _ _ => congrArg (List.lookup _) hmap
    advances := hmap.symm ▸ .refl _
    logs := answer_logs op choice hop
    placed := answer_placed op choice hop }

theorem Settles.turn {next : op.Answer → Call α} (plain : isPlain op = true)
    (later : ∀ choice reached, Kept index before reached →
      guard installationId mls index op choice reached →
      Kept index reached (handle installationId mls index op choice reached).2 →
      Settles installationId mls index (next (handle installationId mls index op choice reached).1)
        (handle installationId mls index op choice reached).2) :
    Settles installationId mls index (.await op next) before :=
  fun reached rely choice allowed =>
    ⟨⟨answer_placed op choice (plain_ne plain).1, fun map h => absurd h ((plain_ne plain).1 map)⟩,
      later choice reached rely.kept allowed
        (handle_kept (plain_ne plain).1 (plain_ne plain).2)⟩

theorem Settles.skip {next : op.Answer → Call α} (plain : isPlain op = true)
    (later : ∀ reply after, Kept index before after →
      Settles installationId mls index (next reply) after) :
    Settles installationId mls index (.await op next) before :=
  .turn plain fun _ _ kept _ kept' => later _ _ (kept.trans kept')

theorem Settles.readGroupMap {next : GroupMap → Call α}
    (later : ∀ after, Kept index before after →
      (after.watches index).read = after.world.map → NoneLater after index →
      Settles installationId mls index (next after.world.map) after) :
    Settles installationId mls index (.await .readGroupMap next) before := by
  refine .turn rfl fun choice reached kept allowed kept' => ?_
  refine later _ (kept.trans kept') ?_ ?_
  · unfold handle note
    dsimp only [answer]
    rw [Function.update_self]
  · intro entry hentry
    rw [kept'.offered] at hentry
    exact allowed entry hentry

/-- What a call keeps when it writes the map as well. -/
structure Progress (index : Nat) (first second : Watched) : Prop where
  offered : (second.watches index).offered = (first.watches index).offered
  failed : ∀ welcome ∈ (first.watches index).failed, welcome ∈ (second.watches index).failed
  advances : Advances first.world.map second.world.map
  logs : LogsGrow first.world second.world
  placed : Placed second.world

/-- Another call has changed the entry, or a record at the position does not go back. -/
def Ready (index : Nat) (conversationId groupId : String) (position : Nat) (watched : Watched) :
    Prop :=
  conversationId ∈ (watched.watches index).touched ∨
    ∀ record, asRecord (watched.world.map.lookup conversationId) = some record →
      record.groupId = groupId ∧ record.processedPosition ≤ position

def Reached (conversationId : String) (position : Nat) (world : World) : Prop :=
  ∃ log, world.logs.lookup conversationId = some log ∧ position ≤ log.length

theorem Reached.grow {first second : World} (h : Reached conversationId position first)
    (grow : LogsGrow first second) : Reached conversationId position second := by
  obtain ⟨log, hlog, hle⟩ := h
  obtain ⟨grown, hgrown, hle'⟩ := grow conversationId log hlog
  exact ⟨grown, hgrown, hle.trans hle'⟩

theorem Ready.keep {first second : Watched} (h : Ready index conversationId groupId position first)
    (kept : Kept index first second) : Ready index conversationId groupId position second := by
  rcases h with htouched | hrecord
  · exact .inl (kept.touched conversationId htouched)
  · by_cases htouched : conversationId ∈ (second.watches index).touched
    · exact .inl htouched
    · refine .inr fun record h => hrecord record ?_
      rwa [kept.entries conversationId htouched] at h

theorem advances_assign (ready : Ready index conversationId groupId position watched)
    (allowed : ∀ other ∈ changed watched.world.map
        (assign conversationId (.record ⟨groupId, position⟩) watched.world.map),
      other ∉ (watched.watches index).touched) :
    Advances watched.world.map
      (assign conversationId (.record ⟨groupId, position⟩) watched.world.map) := by
  intro other record hrecord
  by_cases hsame : other = conversationId
  · subst hsame
    by_cases hchanged : watched.world.map.lookup other =
        (assign other (.record ⟨groupId, position⟩) watched.world.map).lookup other
    · rw [← hchanged]
      exact ⟨record, hrecord, rfl, Nat.le_refl _⟩
    · rcases ready with htouched | hready
      · exact absurd htouched (allowed other (mem_changed.mpr hchanged))
      · obtain ⟨hgroup, hle⟩ := hready record hrecord
        rw [lookup_assign_self]
        exact ⟨_, rfl, hgroup.symm, hle⟩
  · rw [lookup_assign_of_ne hsame]
    exact ⟨record, hrecord, rfl, Nat.le_refl _⟩

theorem Placed.write (placed : Placed watched.world)
    (reached : Reached conversationId position watched.world) :
    Placed { watched.world with
      map := assign conversationId (.record ⟨groupId, position⟩) watched.world.map } where
  records other record hrecord := by
    dsimp only at hrecord
    by_cases hsame : other = conversationId
    · subst hsame
      rw [lookup_assign_self] at hrecord
      cases hrecord
      exact reached
    · rw [lookup_assign_of_ne hsame] at hrecord
      exact placed.records other record hrecord
  welcomes := placed.welcomes
  numbered := placed.numbered

theorem Settles.rememberGroup {rest : Call α} (placed : Placed before.world)
    (ready : Ready index conversationId groupId position before)
    (reached : Reached conversationId position before.world)
    (later : ∀ after, Progress index before after →
      asRecord (after.world.map.lookup conversationId) = some ⟨groupId, position⟩ →
      Settles installationId mls index rest after) :
    Settles installationId mls index
      (rememberGroup conversationId groupId position >>= fun _ => rest) before := by
  change Settles installationId mls index (.await .readGroupMap fun map =>
    .await (.writeGroupMap (assign conversationId (.record ⟨groupId, position⟩) map))
      fun _ => rest) before
  refine .readGroupMap fun after kept hread _ => fun watched rely choice allowed => ?_
  have hstored : watched.world.map = after.world.map := allowed.1.trans (rely.read.trans hread)
  rw [← hstored] at allowed ⊢
  have kept' := kept.trans rely.kept
  have placed' := kept'.placed placed
  have advances := advances_assign (ready.keep kept') allowed.2
  have written := @Placed.write _ _ groupId _ placed' (reached.grow kept'.logs)
  refine ⟨⟨fun _ => written, fun map h => ?_⟩, later _ ⟨?_, ?_, ?_, ?_, written⟩ ?_⟩
  · obtain rfl := Op.writeGroupMap.inj h
    refine ⟨⟨fun other hsame => ?_, fun other record record' hrecord hrecord' _ => ?_⟩, advances⟩
    · rw [hsame, ← allowed.1]
    · obtain ⟨advanced, hadvanced, -, hle⟩ := advances other record hrecord
      cases hadvanced.symm.trans hrecord'
      exact hle
  · unfold handle note
    dsimp only
    rw [if_pos rfl]
    exact kept'.offered
  · unfold handle note
    dsimp only
    rw [if_pos rfl]
    exact kept'.failed
  · exact kept'.advances.trans advances
  · exact kept'.logs
  · unfold handle
    dsimp only [answer]
    rw [lookup_assign_self]
    rfl

end

section

variable {installationId : String} {mls : Mls} {choice : Choice} {world : World}

theorem withoutEffect_ne {β : Type} (reply : Response β) (body : β) :
    GroupState.Response.withoutEffect reply ≠ .accepted body := by
  unfold GroupState.Response.withoutEffect
  split
  · exact nofun
  · next hreply => exact hreply body

theorem postConversation_accepted {input : ActivationRequest}
    (h : (answer installationId mls (.postConversation input) choice world).1 = .accepted ()) :
    world.logs.lookup input.conversationId = none ∧ Reached input.conversationId 1
      (answer installationId mls (.postConversation input) choice world).2 := by
  unfold answer at h ⊢
  dsimp only at h ⊢
  split_ifs at h ⊢ with heffect
  · have hnone := (Bool.and_eq_true_iff.mp heffect).2
    unfold World.canActivate at hnone
    exact ⟨Option.isNone_iff_eq_none.mp (Bool.and_eq_true_iff.mp hnone).1,
      _, lookup_assign_self, Nat.le_refl _⟩
  · exact absurd h (withoutEffect_ne _ _)

theorem postCommit_accepted {conversationId : String} {input : CommitRequest} {position : Nat}
    (h : (answer installationId mls (.postCommit conversationId input) choice world).1 =
      .accepted position) :
    (∃ log, world.logs.lookup conversationId = some log ∧ position = log.length + 1) ∧
      Reached conversationId position
        (answer installationId mls (.postCommit conversationId input) choice world).2 := by
  unfold answer at h ⊢
  dsimp only at h ⊢
  split at h
  · next log heffect hlog =>
      have hstored : world.logs.lookup conversationId = some log :=
        (Option.filter_eq_some_iff.mp hlog).1
      have hposition : position = log.length + 1 := by
        dsimp only at h
        split at h
        · exact (Response.accepted.inj h).symm
        · next hreply => exact absurd h (hreply position)
      exact ⟨⟨log, hstored, hposition⟩, _, lookup_assign_self,
        by rw [hposition, List.length_append, List.length_singleton]⟩
  · exact absurd h (withoutEffect_ne _ _)

end

section

variable {installationId : String} {mls : Mls} {index : Nat} {before watched after : Watched}
  {conversationId groupId : String} {position : Nat} {α : Type} {entries : List WelcomeEntry}
  {choice : Choice}

/-- A call that is offered no Welcome. -/
structure Calm (index : Nat) (watched : Watched) : Prop where
  placed : Placed watched.world
  offered : (watched.watches index).offered = []

theorem Calm.keep (calm : Calm index before) (kept : Kept index before after) :
    Calm index after :=
  ⟨kept.placed calm.placed, kept.offered.trans calm.offered⟩

theorem Calm.progress (calm : Calm index before) (progress : Progress index before after) :
    Calm index after :=
  ⟨progress.placed, progress.offered.trans calm.offered⟩

theorem Calm.settled (calm : Calm index before) : Settled index before := by
  intro entry hentry
  rw [calm.offered] at hentry
  cases hentry

theorem Calm.done (calm : Calm index before) {result : α} :
    Settles installationId mls index (.done result) before :=
  fun _ rely => (calm.keep rely.kept).settled

theorem Calm.reject (calm : Calm index before) {error : String} :
    Settles installationId mls index (.reject error : Call α) before :=
  fun _ rely => (calm.keep rely.kept).settled

theorem activatePlannedConversation_settles (sha256 : String → String) (groupId envelopeId : String)
    (planned : Response Planned) (calm : Calm index before) :
    Settles installationId mls index
      (activatePlannedConversation sha256 groupId envelopeId planned) before := by
  unfold activatePlannedConversation
  rcases planned with _ | _ | planned
  · exact calm.reject
  · exact calm.reject
  dsimp only [expect, Program.pure_eq, Program.done_bind]
  cases planned with
  | existing conversationId => exact calm.done
  | plan plan =>
    dsimp only
    split_ifs
    · exact calm.reject
    refine .skip rfl fun reply after kept => ?_
    have calm := calm.keep kept
    cases reply with
    | none => exact calm.reject
    | some created =>
      refine .skip rfl fun reply after kept => ?_
      have calm := calm.keep kept
      cases reply with
      | none => exact calm.reject
      | some added =>
        refine .turn rfl fun choice reached kept _ kept' => ?_
        have placed := kept.placed calm.placed
        have calm := (calm.keep kept).keep kept'
        rcases hreply : (handle installationId mls index (.postConversation _) choice
          reached).1 with _ | _ | ⟨⟩
        · exact calm.reject
        · exact calm.reject
        obtain ⟨hnone, hreached⟩ := @postConversation_accepted _ mls _ _ _ hreply
        have ready : ∀ record, asRecord (reached.world.map.lookup plan.conversationId) =
            some record → record.groupId = groupId ∧ record.processedPosition ≤ 1 := by
          intro record hrecord
          obtain ⟨log, hlog, -⟩ := placed.records _ record hrecord
          exact absurd (hnone.symm.trans hlog) nofun
        exact .rememberGroup calm.placed (Ready.keep (.inr ready) kept') hreached
          fun after progress _ => (calm.progress progress).done

theorem postMembershipCommit_settles (sha256 : String → String)
    (conversationId envelopeId : String) (composed : RelayIntentResponse) (made : MembershipMls)
    (calm : Calm index before) :
    Settles installationId mls index
      (postMembershipCommit sha256 conversationId envelopeId composed made) before := by
  unfold postMembershipCommit
  refine .skip rfl fun reply after kept => ?_
  have calm := calm.keep kept
  rcases reply with _ | _ | detail
  · exact calm.reject
  · exact calm.reject
  refine .turn rfl fun choice reached kept _ kept' => ?_
  have placed := kept.placed calm.placed
  have calm := (calm.keep kept).keep kept'
  rcases hreply : (handle installationId mls index (.postCommit conversationId _) choice
    reached).1 with _ | _ | position
  · exact calm.reject
  · exact calm.reject
  obtain ⟨⟨log, hlog, hposition⟩, hreached⟩ := @postCommit_accepted _ mls _ _ _ _ _ hreply
  -- What is recorded now is of an earlier position.
  have hready : ∀ record, asRecord (reached.world.map.lookup conversationId) = some record →
      record.processedPosition ≤ position := by
    intro record hrecord
    obtain ⟨log', hlog', hle⟩ := placed.records conversationId record hrecord
    cases hlog.symm.trans hlog'
    omega
  dsimp only [expect, Program.pure_eq, Program.bind]
  rw [groupIdFor_bind]
  refine .readGroupMap fun after kept'' _ _ => ?_
  have calm := calm.keep kept''
  cases hrecord : asRecord (after.world.map.lookup conversationId) with
  | none => exact calm.done
  | some record =>
    refine .rememberGroup calm.placed ?_ (hreached.grow kept''.logs) fun _ progress _ =>
      (calm.progress progress).done
    by_cases htouched : conversationId ∈ (after.watches index).touched
    · exact .inl htouched
    · refine .inr fun other hother => ?_
      cases hrecord.symm.trans hother
      rw [(kept'.trans kept'').entries conversationId htouched] at hrecord
      exact ⟨rfl, hready record hrecord⟩

theorem enableRelay_settles (sha256 : String → String) (envelopeId conversationId kind : String)
    (calm : Calm index before) :
    Settles installationId mls index (enableRelay sha256 envelopeId conversationId kind)
      before := by
  unfold enableRelay
  rw [groupIdFor_bind]
  refine .readGroupMap fun after kept _ _ => ?_
  have calm := calm.keep kept
  cases (asRecord (after.world.map.lookup conversationId)).map GroupRecord.groupId with
  | none => exact calm.reject
  | some groupId =>
    refine .skip rfl fun reply after kept => ?_
    have calm := calm.keep kept
    rcases reply with _ | _ | composed
    · exact calm.reject
    · exact calm.reject
    dsimp only [expect, Program.pure_eq, Program.bind]
    cases composed.intent.takenKeyPackage with
    | none => exact calm.reject
    | some keyPackage =>
      dsimp only
      split_ifs
      · exact calm.reject
      refine .skip rfl fun reply after kept => ?_
      have calm := calm.keep kept
      cases reply with
      | none => exact calm.reject
      | some added => exact postMembershipCommit_settles sha256 _ _ _ _ calm

theorem disableRelay_settles (sha256 : String → String) (envelopeId conversationId : String)
    (calm : Calm index before) :
    Settles installationId mls index (disableRelay sha256 envelopeId conversationId) before := by
  unfold disableRelay
  rw [groupIdFor_bind]
  refine .readGroupMap fun after kept _ _ => ?_
  have calm := calm.keep kept
  cases (asRecord (after.world.map.lookup conversationId)).map GroupRecord.groupId with
  | none => exact calm.reject
  | some groupId =>
    refine .skip rfl fun reply after kept => ?_
    have calm := calm.keep kept
    rcases reply with _ | _ | composed
    · exact calm.reject
    · exact calm.reject
    refine .skip rfl fun reply after kept => ?_
    have calm := calm.keep kept
    cases reply with
    | none => exact calm.reject
    | some removed => exact postMembershipCommit_settles sha256 _ _ _ _ calm

theorem Ready.mono {later : Nat} (h : Ready index conversationId groupId position before)
    (hle : position ≤ later) : Ready index conversationId groupId later before :=
  h.imp_right fun hrecord record h => ⟨(hrecord record h).1, (hrecord record h).2.trans hle⟩

theorem decryptEvents_settles {events : List ConversationEvent} {processed : Nat}
    {cache : MessageCache} (calm : Calm index before)
    (ready : Ready index conversationId groupId processed before)
    (listed : ∀ event ∈ events, Reached conversationId event.position before.world) :
    Settles installationId mls index
      (decryptEvents conversationId groupId (some installationId) events processed cache)
      before := by
  induction events generalizing before processed cache with
  | nil => exact calm.done
  | cons event events ih =>
    have hlater := fun later hmem => listed later (List.mem_cons_of_mem event hmem)
    have grown {after : Watched} (logs : LogsGrow before.world after.world) :
        ∀ later ∈ events, Reached conversationId later.position after.world :=
      fun later hmem => (hlater later hmem).grow logs
    -- The rest of the loop, after a turn that leaves the map.
    have skipped {after : Watched} (kept : Kept index before after) (cache : MessageCache) :
        Settles installationId mls index
          (decryptEvents conversationId groupId (some installationId) events processed cache)
          after :=
      ih (calm.keep kept) (ready.keep kept) (grown kept.logs)
    unfold decryptEvents
    cases event.envelopeClass with
    | externalProposal => exact ih calm ready hlater
    | mlsCommit =>
      dsimp only
      split_ifs with hprocessed
      · exact ih calm ready hlater
      -- The position is remembered, and the loop goes on from it.
      have remembered {after : Watched} (kept : Kept index before after) :
          Settles installationId mls index
            (rememberGroup conversationId groupId event.position >>= fun _ =>
              decryptEvents conversationId groupId (some installationId) events
                event.position cache) after := by
        have calm := calm.keep kept
        refine .rememberGroup calm.placed ((ready.keep kept).mono (by omega))
          ((listed event List.mem_cons_self).grow kept.logs) fun last progress hrecord => ?_
        refine ih (calm.progress progress) (.inr fun record h => ?_)
          (grown fun _ log hlog => (kept.logs.trans progress.logs) _ log hlog)
        cases hrecord.symm.trans h
        exact ⟨rfl, Nat.le_refl _⟩
      refine .skip rfl fun reply after kept => ?_
      rcases reply with _ | _ | body
      · exact (calm.keep kept).reject
      · exact (calm.keep kept).done
      dsimp only [okBody, Program.pure_eq, Program.bind]
      split_ifs
      · exact remembered kept
      · refine .skip rfl fun reply last kept' => ?_
        cases reply with
        | none => exact ((calm.keep kept).keep kept').done
        | some merged => exact remembered (kept.trans kept')
    | application =>
      dsimp only
      split_ifs
      · exact ih calm ready hlater
      refine .skip rfl fun reply after kept => ?_
      rcases reply with _ | _ | body
      · exact (calm.keep kept).reject
      · exact skipped kept _
      dsimp only [okBody, Program.pure_eq, Program.bind]
      split_ifs
      · exact skipped kept _
      · exact .skip rfl fun _ _ kept' => .skip rfl fun _ _ kept'' =>
          skipped ((kept.trans kept').trans kept'') _

theorem decryptedMessages_settles (conversationId : String) (count : Nat)
    (calm : Calm index before) :
    Settles installationId mls index (decryptedMessages conversationId (some installationId)
      (before.world.listed conversationId count)) before := by
  have listed : ∀ event ∈ before.world.listed conversationId count,
      Reached conversationId event.position before.world := by
    intro event hevent
    unfold World.listed at hevent
    obtain ⟨entry, hentry, rfl⟩ := List.mem_map.mp hevent
    have hmem := List.mem_of_mem_take hentry
    cases hlog : before.world.logs.lookup conversationId with
    | none =>
      rw [hlog] at hmem
      cases hmem
    | some log =>
      rw [hlog] at hmem
      exact ⟨log, hlog, calm.placed.numbered conversationId log hlog entry hmem⟩
  refine .readGroupMap fun after kept _ _ => .skip rfl fun cache last kept' => ?_
  have calm := (calm.keep kept).keep kept'
  cases hrecord : asRecord (after.world.map.lookup conversationId) with
  | none => exact calm.done
  | some record =>
    refine decryptEvents_settles calm (Ready.keep (.inr fun other hother => ?_) kept')
      fun event hevent => (listed event hevent).grow (kept.logs.trans kept'.logs)
    cases hrecord.symm.trans hother
    exact ⟨rfl, Nat.le_refl _⟩

/-- Each offered Welcome is still to be looked at, or could not be processed, or is covered. -/
def Pending (index : Nat) (entries : List WelcomeEntry) (watched : Watched) : Prop :=
  ∀ entry ∈ (watched.watches index).offered, entry ∈ entries ∨
    entry.welcome ∈ (watched.watches index).failed ∨ covered watched.world.map entry = true

theorem Pending.move (h : Pending index entries before)
    (offered : (after.watches index).offered = (before.watches index).offered)
    (failed : ∀ welcome ∈ (before.watches index).failed, welcome ∈ (after.watches index).failed)
    (advances : Advances before.world.map after.world.map) : Pending index entries after := by
  intro entry hentry
  rw [offered] at hentry
  rcases h entry hentry with hmem | hfailed | hcovered
  · exact .inl hmem
  · exact .inr (.inl (failed _ hfailed))
  · exact .inr (.inr (advances.covered hcovered))

theorem Pending.keep (h : Pending index entries before)
    (kept : Kept index before after) : Pending index entries after :=
  h.move kept.offered kept.failed kept.advances

theorem Pending.tail {entry : WelcomeEntry} (h : Pending index (entry :: entries) before)
    (hcovered : covered before.world.map entry = true) : Pending index entries before := by
  intro other hother
  rcases h other hother with hmem | hfailed | hcovered'
  · rcases List.mem_cons.mp hmem with rfl | hmem
    · exact .inr (.inr hcovered)
    · exact .inl hmem
  · exact .inr (.inl hfailed)
  · exact .inr (.inr hcovered')

theorem joinMlsWelcome_failed {welcome : String}
    (h : (handle installationId mls index (.joinMlsWelcome welcome) choice watched).1 = none) :
    ((handle installationId mls index (.joinMlsWelcome welcome) choice watched).2.watches
      index).failed = welcome :: (watched.watches index).failed := by
  have hreply : (answer installationId mls (.joinMlsWelcome welcome) choice
    watched.world).1 = none := h
  unfold handle
  dsimp only
  rw [hreply]
  unfold note
  dsimp only
  rw [Function.update_self]

theorem joinWelcomes_settles (placed : Placed before.world) (pending : Pending index entries before)
    (offered : ∀ entry ∈ entries, entry ∈ (before.watches index).offered)
    (reached : ∀ entry ∈ entries, Reached entry.conversationId entry.commitPosition before.world) :
    Settles installationId mls index (joinWelcomes entries) before := by
  induction entries generalizing before with
  | nil =>
    intro later rely entry hentry
    rcases pending.keep rely.kept entry hentry with hmem | hsettled
    · cases hmem
    · exact hsettled
  | cons entry entries ih =>
    have hoffered := fun later hmem => offered later (List.mem_cons_of_mem entry hmem)
    have hreached := fun later hmem => reached later (List.mem_cons_of_mem entry hmem)
    unfold joinWelcomes
    rw [groupIdFor_bind]
    refine .readGroupMap fun after kept _ noneLater => ?_
    have pending := pending.keep kept
    cases hrecord : asRecord (after.world.map.lookup entry.conversationId) with
    | some record =>
      have hmem := kept.offered.symm ▸ offered entry List.mem_cons_self
      rcases noneLater entry hmem with hnone | hcovered
      · cases hrecord.symm.trans hnone
      · exact ih (kept.placed placed) (pending.tail hcovered)
          (fun later h => kept.offered.symm ▸ hoffered later h)
          fun later h => (hreached later h).grow kept.logs
    | none =>
      dsimp only [Option.map_none]
      refine .turn rfl fun choice watched kept' allowed kept'' => ?_
      have hall := (kept.trans kept').trans kept''
      cases hreply : (handle installationId mls index (.joinMlsWelcome entry.welcome) choice
        watched).1 with
      | none =>
        refine fun later rely other hother => ?_
        rw [rely.kept.offered, kept''.offered] at hother
        have hfailed : entry.welcome ∈ (later.watches index).failed :=
          rely.kept.failed _ (joinMlsWelcome_failed hreply ▸ List.mem_cons_self)
        rcases allowed with hsome | hothers
        · have hnone : (answer installationId mls (.joinMlsWelcome entry.welcome) choice
            watched.world).1 = none := hreply
          rw [hnone] at hsome
          cases hsome
        · rcases hothers other hother with hsame | hother | hcovered
          · exact .inl (hsame ▸ hfailed)
          · exact .inl (rely.kept.failed _ (kept''.failed _ hother))
          · exact .inr ((kept''.trans rely.kept).advances.covered hcovered)
      | some groupId =>
        have hready : Ready index entry.conversationId groupId entry.commitPosition after :=
          .inr fun record h => by cases hrecord.symm.trans h
        refine .rememberGroup (hall.placed placed) (hready.keep (kept'.trans kept''))
          ((reached entry List.mem_cons_self).grow hall.logs) fun last progress hrecord => ?_
        have hcovered : covered last.world.map entry = true := by
          unfold covered
          rw [hrecord]
          exact decide_eq_true (Nat.le_refl _)
        have hsame := progress.offered.trans hall.offered
        have pending := ((pending.keep (kept'.trans kept'')).move progress.offered
          progress.failed progress.advances).tail hcovered
        exact ih progress.placed pending (fun later h => hsame.symm ▸ hoffered later h)
          fun later h => ((hreached later h).grow hall.logs).grow progress.logs

theorem getWelcomes_accepted {installation : String}
    (h : (answer installationId mls (.getWelcomes installation) choice watched.world).1 =
      .accepted entries) :
    (∀ entry ∈ entries, entry ∈ watched.world.welcomes) ∧
      (handle installationId mls index (.getWelcomes installation) choice watched).2 =
        ⟨watched.world, Function.update watched.watches index
          { watched.watches index with offered := entries }⟩ := by
  have hworld : (answer installationId mls (.getWelcomes installation) choice
      watched.world).2 = watched.world := by
    unfold answer
    dsimp only
    split <;> rfl
  constructor
  · unfold answer at h
    dsimp only at h
    split at h
    · obtain rfl := Response.accepted.inj h
      exact fun entry hentry => of_decide_eq_true (List.mem_filter.mp hentry).2
    · next hreply => exact absurd h (hreply entries)
  · unfold handle
    dsimp only
    rw [h, hworld]
    rfl

theorem syncWelcomes_settles (session : Option String) (calm : Calm index before) :
    Settles installationId mls index (syncWelcomes session) before := by
  unfold syncWelcomes
  cases session with
  | none => exact calm.done
  | some session =>
    intro watched rely choice _
    have calm := calm.keep rely.kept
    have placed := @answer_placed installationId mls watched.world
      (.getWelcomes session) choice nofun calm.placed
    refine ⟨⟨fun _ => placed, nofun⟩, ?_⟩
    have noted {reply : Response (List WelcomeEntry)}
        (h : (handle installationId mls index (.getWelcomes session) choice watched).1 = reply)
        (hreply : ∀ entries, reply ≠ .accepted entries) :
        Calm index (handle installationId mls index (.getWelcomes session) choice watched).2 := by
      refine ⟨placed, ?_⟩
      have hanswer : (answer installationId mls (.getWelcomes session) choice
        watched.world).1 = reply := h
      unfold handle note
      dsimp only
      rw [hanswer]
      cases reply with
      | accepted entries => exact absurd rfl (hreply entries)
      | unreachable => exact calm.offered
      | refused reasonCode => exact calm.offered
    rcases hreply : (handle installationId mls index (.getWelcomes session) choice watched).1
      with _ | _ | entries
    · exact (noted hreply nofun).reject
    · exact (noted hreply nofun).done
    · obtain ⟨hlisted, hafter⟩ := getWelcomes_accepted hreply
      rw [hafter]
      refine joinWelcomes_settles calm.placed ?_ ?_ fun entry hentry =>
        calm.placed.welcomes entry (hlisted entry hentry)
      · intro entry hentry
        dsimp only at hentry
        rw [Function.update_self] at hentry
        exact .inl hentry
      · intro entry hentry
        dsimp only
        rwa [Function.update_self]

theorem DeviceCall.settles (sha256 : String → String) (call : DeviceCall)
    (calm : Calm index before) :
    Settles installationId mls index (call.program installationId sha256 before.world) before := by
  cases call with
  | startConversation groupId envelopeId claimHandle =>
    refine Withstands.ignore (Settles.skip rfl fun planned _ kept => ?_)
    exact activatePlannedConversation_settles sha256 groupId envelopeId planned (calm.keep kept)
  | acceptConversationRequest groupId envelopeId requestId =>
    refine Withstands.ignore (Settles.skip rfl fun planned _ kept => ?_)
    exact activatePlannedConversation_settles sha256 groupId envelopeId planned (calm.keep kept)
  | enableRelay envelopeId conversationId kind =>
    exact enableRelay_settles sha256 envelopeId conversationId kind calm
  | disableRelay envelopeId conversationId =>
    exact disableRelay_settles sha256 envelopeId conversationId calm
  | syncWelcomes => exact syncWelcomes_settles (some installationId) calm
  | decryptedMessages conversationId count =>
    exact (decryptedMessages_settles conversationId count calm).ignore

end

section

variable {installationId : String} {mls : Mls} {sha256 : String → String} {calls next : Calls}
  {event : Event}

structure Inv (installationId : String) (mls : Mls) (calls : Calls) : Prop where
  placed : Placed calls.shared.world
  withstood : Withstood (handle installationId mls) (guard installationId mls)
    (Turn installationId mls) Rely Settled calls

theorem Inv.start : Inv installationId mls start :=
  ⟨.fresh, nofun⟩

theorem Inv.begin (inv : Inv installationId mls calls) (call : DeviceCall) :
    Inv installationId mls {
      shared := { calls.shared with
        watches := Function.update calls.shared.watches calls.calls.length Watch.fresh }
      calls := calls.calls ++ [call.program installationId sha256 calls.shared.world] } := by
  refine ⟨inv.placed, inv.withstood.start Rely.trans (fun index hlt => ?_) ?_⟩
  · have hwatch : Function.update calls.shared.watches calls.calls.length Watch.fresh index =
        calls.shared.watches index := Function.update_of_ne (Nat.ne_of_lt hlt) ..
    refine ⟨⟨?_, ?_, ?_, fun _ _ => rfl, .refl _, .refl _, fun h => h⟩, ?_⟩
    all_goals
      dsimp only
      rw [hwatch]
    · exact fun _ h => h
    · exact fun _ h => h
  · refine @DeviceCall.settles installationId mls calls.calls.length { calls.shared with
      watches := Function.update calls.shared.watches calls.calls.length Watch.fresh } sha256 call
        ⟨inv.placed, ?_⟩
    dsimp only
    rw [Function.update_self]
    rfl

theorem Inv.append (inv : Inv installationId mls calls) {conversationId : String}
    {entry : StoredEnvelope} {welcome : Option String}
    (h : calls.shared.world.admits installationId mls conversationId entry welcome = true) :
    Inv installationId mls { calls with shared := { calls.shared with
      world := { calls.shared.world with
        logs := assign conversationId
          ((calls.shared.world.logs.lookup conversationId).getD [] ++ [entry])
            calls.shared.world.logs
        welcomes := calls.shared.world.welcomes ++
          welcome.toList.map fun welcome => ⟨conversationId, welcome, entry.position⟩ } } } := by
  have hposition : entry.position =
      ((calls.shared.world.logs.lookup conversationId).getD []).length + 1 := by
    unfold World.admits at h
    simp only [Bool.and_eq_true, decide_eq_true_eq] at h
    exact h.1.1.1
  have hgrows : ∀ old, calls.shared.world.logs.lookup conversationId = some old →
      old.length ≤ ((calls.shared.world.logs.lookup conversationId).getD [] ++ [entry]).length := by
    intro old hold
    rw [hold, Option.getD_some, List.length_append]
    exact Nat.le_add_right _ _
  have hnumbered : ∀ other ∈ (calls.shared.world.logs.lookup conversationId).getD [],
      other.position ≤ ((calls.shared.world.logs.lookup conversationId).getD []).length := by
    cases hlog : calls.shared.world.logs.lookup conversationId with
    | none => exact nofun
    | some log => exact inv.placed.numbered conversationId log hlog
  have placed : Placed calls.shared.world → Placed { calls.shared.world with
      logs := assign conversationId
        ((calls.shared.world.logs.lookup conversationId).getD [] ++ [entry])
          calls.shared.world.logs
      welcomes := calls.shared.world.welcomes ++
        welcome.toList.map fun welcome => ⟨conversationId, welcome, entry.position⟩ } := by
    intro placed
    have grown : Placed { calls.shared.world with
        logs := assign conversationId
          ((calls.shared.world.logs.lookup conversationId).getD [] ++ [entry])
            calls.shared.world.logs } :=
      placed.assign_log rfl rfl rfl hgrows (numbered_append hnumbered hposition)
    refine ⟨grown.records, fun known hknown => ?_, grown.numbered⟩
    rcases List.mem_append.mp hknown with hold | hnew
    · exact grown.welcomes known hold
    · obtain ⟨brought, -, rfl⟩ := List.mem_map.mp hnew
      refine ⟨_, lookup_assign_self, ?_⟩
      rw [List.length_append, List.length_singleton]
      exact hposition.le
  refine ⟨placed inv.placed, inv.withstood.interfere Rely.trans fun index => ?_⟩
  exact ⟨⟨rfl, fun _ h => h, fun _ h => h, fun _ _ => rfl, .refl _, .assign rfl hgrows, placed⟩,
    rfl⟩

theorem Guard.of_resume {index : Nat} {choice : Choice} {op : Op} {rest : op.Answer → Call Unit}
    (guarded : Guard installationId mls (.resume index choice) calls)
    (hcall : calls.calls[index]? = some (.await op rest)) :
    guard installationId mls index op choice calls.shared := by
  unfold Guard at guarded
  dsimp only at guarded
  rw [hcall] at guarded
  exact guarded

theorem Inv.isolated (inv : Inv installationId mls calls)
    (guarded : Guard installationId mls event calls) : Isolated event calls := by
  unfold Isolated
  cases event with
  | resume index choice =>
    dsimp only
    split
    · next map rest hcall =>
        have withstands := inv.withstood index _ hcall calls.shared (Rely.refl index _) choice
          (guarded.of_resume hcall)
        exact (withstands.1.2 map rfl).1
    · trivial
  | _ => trivial

theorem Inv.keep (inv : Inv installationId mls calls)
    (guarded : Guard installationId mls event calls)
    (h : step installationId mls sha256 event calls = some next) :
    Inv installationId mls next := by
  cases event with
  | start call =>
    cases h
    exact inv.begin call
  | resume index choice =>
    have htake : calls.take (handle installationId mls) (.resume index choice) = some next := h
    obtain ⟨op, rest, hcall, hnext⟩ := Pool.take_resume htake
    obtain ⟨turn, withstood⟩ := inv.withstood.resume Rely.refl Rely.trans Turn.disturbs hcall
      (guarded.of_resume hcall) htake
    exact ⟨hnext ▸ turn.1 inv.placed, withstood⟩
  | other conversationId entry welcome =>
    unfold WelcomeSync.step at h
    dsimp only at h
    split_ifs at h with hadmits
    cases h
    exact inv.append hadmits

theorem Inv.isolated_run {events : List Event} (inv : Inv installationId mls calls)
    (guarded : Guarded (step installationId mls sha256) (Guard installationId mls) events calls) :
    Guarded (step installationId mls sha256) Isolated events calls := by
  induction events generalizing calls with
  | nil => trivial
  | cons event rest ih =>
    exact .cons (inv.isolated guarded.1) fun next hnext =>
      ih (inv.keep guarded.1 hnext) (guarded.next hnext)

/-- If a call writes the map only where it is still the map that it read and no other call has
changed the entry since it began, and is offered no Welcome of a later Commit than the recorded
group and none that is left to join beside one that cannot be processed, the conversations are
isolated, and the groups of the Welcomes are joined. -/
theorem welcomes_isolated_and_complete (installationId : String) (mls : Mls)
    (sha256 : String → String) (events : List Event)
    (guarded : Guarded (step installationId mls sha256) (Guard installationId mls) events start) :
    Guarded (step installationId mls sha256) Isolated events start ∧
      ∀ final, run (step installationId mls sha256) events start = some final →
        Complete final := by
  refine ⟨Inv.start.isolated_run guarded, fun final h index call hcall hended => ?_⟩
  have inv : Inv installationId mls final :=
    invariant_of_run (fun _ _ _ inv kept hnext => inv.keep kept hnext) .start guarded h
  exact inv.withstood.ended Rely.refl hcall hended

end

def sampleMls : Mls := {
  base := fun commit =>
    if commit = "commit-2" then ["commit-1"]
    else if commit = "commit-3" then ["commit-1", "commit-2"]
    else []
  welcomeState := fun welcome =>
    if welcome = "welcome-0" then some ("group-0", ["commit-1"])
    else if welcome = "welcome-1" then some ("group-1", ["commit-1"])
    else if welcome = "welcome-3" then some ("group-1", ["commit-1", "commit-2", "commit-3"])
    else none }

def sampleChoice (welcomes : List WelcomeEntry) : Choice := {
  given := fun
    | .getWelcomes _ => .accepted welcomes
    | .joinMlsWelcome welcome => if welcome = "welcome-0" then none else some ""
    | op => GroupState.sampleGiven "commit-1" 0 .unreachable (.accepted ()) .unreachable op
  takesEffect := true }

def sampleResume (index turns : Nat) (welcomes : List WelcomeEntry) : List Event :=
  List.replicate turns (.resume index (sampleChoice welcomes))

def sampleOther (conversationId commit : String) (position : Nat) (welcome : Option String) :
    Event :=
  .other conversationId ⟨commit, .mlsCommit, position, commit, some "peer"⟩ welcome

def sampleStart : Event := .start (.startConversation "group" "envelope-1" "claim")

def firstWelcome : WelcomeEntry := ⟨"first", "welcome-1", 1⟩

def sampleBeside : List Event :=
  [sampleOther "first" "commit-1" 1 (some "welcome-1"), .start .syncWelcomes, sampleStart] ++
    sampleResume 1 4 [] ++ sampleResume 0 5 [firstWelcome] ++ sampleResume 1 2 []

def sampleOverlap : List Event :=
  [sampleOther "first" "commit-1" 1 (some "welcome-1"), .start .syncWelcomes, sampleStart] ++
    sampleResume 0 4 [firstWelcome] ++ sampleResume 1 6 []

def sampleUnreadable : List Event :=
  [sampleOther "broken" "commit-1" 1 (some "welcome-0"),
    sampleOther "first" "commit-1" 1 (some "welcome-1"), .start .syncWelcomes] ++
    sampleResume 0 3 [⟨"broken", "welcome-0", 1⟩, firstWelcome]

def sampleRejoin : List Event :=
  [sampleOther "first" "commit-1" 1 (some "welcome-1"), .start .syncWelcomes] ++
    sampleResume 0 5 [firstWelcome] ++
    [sampleOther "first" "commit-2" 2 none, sampleOther "first" "commit-3" 3 (some "welcome-3"),
      .start .syncWelcomes] ++
    sampleResume 1 2 [⟨"first", "welcome-3", 3⟩]

abbrev sampleStep : Event → Calls → Option Calls := step "me" sampleMls id

theorem welcomes_isolated_and_complete_beside :
    Guarded sampleStep Isolated sampleBeside start ∧
      ∃ final, run sampleStep sampleBeside start = some final ∧ Complete final ∧
        final.shared.world.map =
          [("first", .record ⟨"group-1", 1⟩), ("conversation", .record ⟨"group", 1⟩)] := by
  have h := welcomes_isolated_and_complete "me" sampleMls id sampleBeside (by decide)
  exact ⟨h.1, _, rfl, h.2 _ rfl, by decide⟩

/-- A Welcome that cannot be processed leaves the next one behind, a device that was added again
does not join, and a write removes the entry that was written since its read. -/
theorem welcomes_left_behind :
    (∃ final, run sampleStep sampleUnreadable start = some final ∧ ¬ Complete final) ∧
      (∃ final, run sampleStep sampleRejoin start = some final ∧ ¬ Complete final) ∧
      ¬ Guarded sampleStep Isolated (sampleOverlap ++ sampleResume 0 1 []) start := by
  refine ⟨⟨_, rfl, fun h => ?_⟩, ⟨_, rfl, fun h => ?_⟩, fun h => ?_⟩
  · have settled := h 0 _ rfl nofun firstWelcome (by decide)
    revert settled
    decide
  · have settled := h 1 _ rfl nofun ⟨"first", "welcome-3", 3⟩ (by decide)
    revert settled
    decide
  · have isolated := ((h.after rfl).1 : Isolates 0 _ _).1 "conversation" rfl
    revert isolated
    decide

end JbChat.Client.WelcomeSync
