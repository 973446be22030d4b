/- source: src/lib/messaging/conversation.ts, crypto/crates/client-core/src/lib.rs
   digest: The groups of a device and the stored logs, whatever becomes of its requests. -/

import JbChat.Client.Conversation

/-!
A group is the list of the Commits merged into it, and a Commit is made of such a list. The device
takes one call after another; between its calls other devices append to the logs.
-/

set_option autoImplicit false

namespace JbChat.Client.GroupState

open Foundation.Await Foundation.Await.Program Foundation.GuardedRun Delivery.EnvelopeLog
open Conversation

section

structure StoredEnvelope where
  envelopeId : String
  envelopeClass : EnvelopeClass
  position : Nat
  envelope : String
  senderInstallationId : Option String

def StoredEnvelope.event (entry : StoredEnvelope) : ConversationEvent :=
  ⟨entry.envelopeId, entry.envelopeClass, entry.position⟩

def StoredEnvelope.isCommit (entry : StoredEnvelope) : Bool :=
  decide (entry.envelopeClass = .mlsCommit)

def commitsOf (log : List StoredEnvelope) : List String :=
  (log.filter StoredEnvelope.isCommit).map StoredEnvelope.envelope

/-- The group map and the MLS storage of the device, the logs and the Welcomes of the server. -/
structure World where
  map : GroupMap
  groups : List (String × List String)
  logs : List (String × List StoredEnvelope)
  welcomes : List WelcomeEntry

/-- What the environment would answer, and whether a request takes effect. -/
structure Choice where
  given : (op : Op) → op.Answer
  takesEffect : Bool

/-- A reply to a request that took no effect. -/
def Response.withoutEffect {β : Type} : Response β → Response β
  | .accepted _ => .refused none
  | reply => reply

def World.commitLog (world : World) (conversationId : String) (input : CommitRequest) :
    Option (List StoredEnvelope) :=
  (world.logs.lookup conversationId).filter fun log =>
    decide (input.expectedEpoch = (commitsOf log).length ∧
      input.resultingEpoch = (commitsOf log).length + 1 ∧
      input.envelopeId ∉ log.map StoredEnvelope.envelopeId)

def World.canActivate (world : World) (input : ActivationRequest) : Bool :=
  (world.logs.lookup input.conversationId).isNone && decide (input.epoch = 1)

variable (installationId : String)

/-- The envelope of a Commit of the device, after those of the log. -/
def ownCommit (log : List StoredEnvelope) (envelopeId commit : String) : StoredEnvelope :=
  ⟨envelopeId, .mlsCommit, log.length + 1, commit, some installationId⟩

def World.activate (world : World) (input : ActivationRequest) : World :=
  { world with
    logs := assign input.conversationId
      [ownCommit installationId [] input.envelopeId input.commit] world.logs }

def World.append (world : World) (conversationId : String) (log : List StoredEnvelope)
    (input : CommitRequest) : World :=
  { world with
    logs := assign conversationId
      (log ++ [ownCommit installationId log input.envelopeId input.commit]) world.logs }

/-- `base`: the Commits merged into the group that a Commit is made in; `welcomeState`: the group
of a Welcome, with the Commits merged into it. -/
structure Mls where
  base : String → List String
  welcomeState : String → Option (String × List String)

variable (mls : Mls)

def World.merge (world : World) (groupId commit : String) (merged : List String) : World :=
  { world with groups := assign groupId (merged ++ [commit]) world.groups }

/-- The client core merges its own Commit when it makes it, and that of another device if it is made
in the state of the group. -/
def answer : (op : Op) → Choice → World → op.Answer × World
  | .readGroupMap, _, world => (world.map, world)
  | .writeGroupMap map, _, world => ((), { world with map := map })
  | .createMlsGroup groupId, choice, world =>
    match choice.given (.createMlsGroup groupId), world.groups.lookup groupId with
    | some (), none => (some (), { world with groups := assign groupId [] world.groups })
    | _, _ => (none, world)
  | .addMlsMembers groupId keyPackages, choice, world =>
    match choice.given (.addMlsMembers groupId keyPackages), world.groups.lookup groupId with
    | some added, some merged =>
      if mls.base added.commit = merged then
        (some { added with epoch := merged.length + 1 },
          world.merge groupId added.commit merged)
      else (none, world)
    | _, _ => (none, world)
  | .removeMlsMember groupId signatureKey, choice, world =>
    match choice.given (.removeMlsMember groupId signatureKey),
      world.groups.lookup groupId with
    | some removed, some merged =>
      if mls.base removed.commit = merged then
        (some { removed with epoch := merged.length + 1 },
          world.merge groupId removed.commit merged)
      else (none, world)
    | _, _ => (none, world)
  | .joinMlsWelcome welcome, choice, world =>
    match choice.given (.joinMlsWelcome welcome), mls.welcomeState welcome with
    | some _, some (groupId, merged) =>
      if (world.groups.lookup groupId).isSome then (none, world)
      else (some groupId, { world with groups := assign groupId merged world.groups })
    | _, _ => (none, world)
  | .processMlsCommit groupId commit, choice, world =>
    match choice.given (.processMlsCommit groupId commit), world.groups.lookup groupId with
    | some (), some merged =>
      if mls.base commit = merged then (some (), world.merge groupId commit merged)
      else (none, world)
    | _, _ => (none, world)
  | .postConversation input, choice, world =>
    if choice.takesEffect && world.canActivate input then
      (choice.given (.postConversation input), world.activate installationId input)
    else (Response.withoutEffect (choice.given (.postConversation input)), world)
  | .postCommit conversationId input, choice, world =>
    match choice.takesEffect, world.commitLog conversationId input with
    | true, some log =>
      (match choice.given (.postCommit conversationId input) with
        | .accepted _ => .accepted (log.length + 1)
        | reply => reply, world.append installationId conversationId log input)
    | _, _ => (Response.withoutEffect (choice.given (.postCommit conversationId input)), world)
  | .getWelcomes installationId, choice, world =>
    match choice.given (.getWelcomes installationId) with
    | .accepted entries => (.accepted (entries.filter (· ∈ world.welcomes)), world)
    | reply => (reply, world)
  | .getEnvelope conversationId envelopeId, choice, world =>
    match choice.given (.getEnvelope conversationId envelopeId) with
    | .accepted _ =>
      match ((world.logs.lookup conversationId).getD []).find?
        fun entry => entry.envelopeId == envelopeId with
      | some entry => (.accepted ⟨entry.envelope, entry.senderInstallationId⟩, world)
      | none => (.refused none, world)
    | reply => (reply, world)
  | op, choice, world => (choice.given op, world)

inductive DeviceCall where
  | startConversation (groupId envelopeId claimHandle : String)
  | acceptConversationRequest (groupId envelopeId requestId : String)
  | enableRelay (envelopeId conversationId channelKind : String)
  | disableRelay (envelopeId conversationId : String)
  | syncWelcomes
  | decryptedMessages (conversationId : String) (listed : Nat)

variable (sha256 : String → String)

def World.listed (world : World) (conversationId : String) (count : Nat) :
    List ConversationEvent :=
  (((world.logs.lookup conversationId).getD []).take count).map StoredEnvelope.event

def DeviceCall.program (world : World) : DeviceCall → Call Unit
  | .startConversation groupId envelopeId claimHandle => do
    let _ ← Conversation.startConversation sha256 groupId envelopeId claimHandle
  | .acceptConversationRequest groupId envelopeId requestId => do
    let _ ← Conversation.acceptConversationRequest sha256 groupId envelopeId requestId
  | .enableRelay envelopeId conversationId channelKind =>
    Conversation.enableRelay sha256 envelopeId conversationId channelKind
  | .disableRelay envelopeId conversationId =>
    Conversation.disableRelay sha256 envelopeId conversationId
  | .syncWelcomes => Conversation.syncWelcomes (some installationId)
  | .decryptedMessages conversationId count => do
    let _ ← Conversation.decryptedMessages conversationId (some installationId)
      (world.listed conversationId count)

/-- A call of the device with the choices made in it, or an envelope that is appended meanwhile: a
Commit of another device, perhaps with a Welcome for this one, or a message of any. -/
inductive Step where
  | call (call : DeviceCall) (choices : Nat → Choice)
  | other (conversationId : String) (entry : StoredEnvelope) (welcome : Option String)

/-- Envelopes are appended in order; a Commit of another device is made in the state of the log. -/
def World.admits (world : World) (conversationId : String) (entry : StoredEnvelope)
    (welcome : Option String) : Bool :=
  let log := (world.logs.lookup conversationId).getD []
  decide (entry.position = log.length + 1) &&
    decide (entry.envelopeId ∉ log.map StoredEnvelope.envelopeId) &&
    (!entry.isCommit || (decide (entry.senderInstallationId ≠ some installationId) &&
      decide (mls.base entry.envelope = commitsOf log))) &&
    welcome.all fun welcome =>
      decide ((mls.welcomeState welcome).map Prod.snd = some (commitsOf (log ++ [entry])))

def takeStep : Step → World → Option World
  | .call call choices, world =>
    some (solo (answer installationId mls) (call.program installationId sha256 world) choices
      world).2
  | .other conversationId entry welcome, world =>
    if world.admits installationId mls conversationId entry welcome then
      some { world with
        logs := assign conversationId ((world.logs.lookup conversationId).getD [] ++ [entry])
          world.logs
        welcomes := world.welcomes ++
          welcome.toList.map fun welcome => ⟨conversationId, welcome, entry.position⟩ }
    else none

def World.fresh : World := ⟨[], [], [], []⟩

end

section

variable (installationId : String) (mls : Mls) (sha256 : String → String)

/-- The response to an activation that takes effect arrives; the detail that is read after a local
merge arrives, and the Commit posted then takes effect. -/
def delivered : (op : Op) → Choice → World → Bool
  | .postConversation input, choice, world =>
    !(choice.takesEffect && world.canActivate input) ||
      decide (choice.given (.postConversation input) = .accepted ())
  | .getConversation conversationId, choice, _ =>
    match choice.given (.getConversation conversationId) with
    | .accepted _ => true
    | _ => false
  | .postCommit conversationId input, choice, world =>
    choice.takesEffect && (world.commitLog conversationId input).isSome
  | _, _, _ => true

def Delivered (op : Op) (choice : Choice) (world : World) : Prop :=
  delivered op choice world = true

instance (op : Op) (choice : Choice) (world : World) : Decidable (Delivered op choice world) :=
  inferInstanceAs (Decidable (_ = true))

def Guard : Step → World → Prop
  | .call call choices, world => Allowed (answer installationId mls) Delivered
      (call.program installationId sha256 world) choices world
  | .other _ _ _, _ => True

instance Guard.decide : (event : Step) → (world : World) →
    Decidable (Guard installationId mls sha256 event world)
  | .call _ _, _ => inferInstanceAs (Decidable (Allowed _ _ _ _ _))
  | .other _ _ _, _ => .isTrue trivial

/-- The group of each record has merged exactly the first Commits of the log, and all up to the
processed position; what the device has activated has a record. -/
structure World.FollowsLogs (world : World) : Prop where
  merged : ∀ (conversationId : String) (record : GroupRecord),
    asRecord (world.map.lookup conversationId) = some record →
      ∃ merged log, world.groups.lookup record.groupId = some merged ∧
        world.logs.lookup conversationId = some log ∧ merged <+: commitsOf log ∧
        commitsOf (log.filter fun entry => decide (entry.position ≤ record.processedPosition))
          <+: merged
  activated : ∀ (conversationId : String) (log : List StoredEnvelope) (entry : StoredEnvelope),
    world.logs.lookup conversationId = some log → log.head? = some entry → entry.isCommit →
      entry.senderInstallationId = some installationId →
        (asRecord (world.map.lookup conversationId)).isSome

end

section

variable {log : List StoredEnvelope} {entry : StoredEnvelope}

theorem commitsOf_append (log later : List StoredEnvelope) :
    commitsOf (log ++ later) = commitsOf log ++ commitsOf later := by
  unfold commitsOf
  rw [List.filter_append, List.map_append]

theorem commitsOf_singleton (commit : entry.isCommit) : commitsOf [entry] = [entry.envelope] := by
  unfold commitsOf
  rw [List.filter_cons_of_pos commit]
  rfl

theorem commitsOf_take_prefix (log : List StoredEnvelope) (index : Nat) :
    commitsOf (log.take index) <+: commitsOf log := by
  refine ⟨commitsOf (log.drop index), ?_⟩
  rw [← commitsOf_append, List.take_append_drop]

theorem commitsOf_take_succ {index : Nat} (hentry : log[index]? = some entry)
    (commit : entry.isCommit) :
    commitsOf (log.take (index + 1)) = commitsOf (log.take index) ++ [entry.envelope] := by
  rw [List.take_add_one, hentry, commitsOf_append]
  exact congrArg (commitsOf (log.take index) ++ ·) (commitsOf_singleton commit)

def Numbered (log : List StoredEnvelope) : Prop :=
  ∀ (index : Nat) (entry : StoredEnvelope), log[index]? = some entry → entry.position = index + 1

theorem Numbered.append (numbered : Numbered log) (position : entry.position = log.length + 1) :
    Numbered (log ++ [entry]) := by
  intro index other hother
  rcases Nat.lt_or_ge index log.length with hlt | hge
  · rw [List.getElem?_append_left hlt] at hother
    exact numbered index other hother
  · rw [List.getElem?_append_right hge, List.getElem?_singleton] at hother
    split_ifs at hother with hindex
    cases hother
    omega

theorem Numbered.filter_eq (numbered : Numbered log) (position : Nat) :
    (log.filter fun entry => decide (entry.position ≤ position)) = log.take position := by
  induction log using List.reverseRecOn with
  | nil => simp
  | append_singleton log last ih =>
    have hlast : last.position = log.length + 1 :=
      numbered log.length last List.getElem?_concat_length
    have hnumbered : Numbered log := by
      intro index entry hentry
      refine numbered index entry ?_
      rwa [List.getElem?_append_left (List.getElem?_eq_some_iff.mp hentry).1]
    rw [List.filter_append, ih hnumbered, List.take_append]
    rcases Nat.lt_or_ge log.length position with hlt | hge
    · have htake : [last].take (position - log.length) = [last] :=
        List.take_of_length_le (by simp only [List.length_singleton]; omega)
      rw [htake, List.filter_cons_of_pos (by simp only [decide_eq_true_eq]; omega)]
      rfl
    · rw [List.filter_cons_of_neg (by simp only [decide_eq_true_eq]; omega),
        Nat.sub_eq_zero_of_le hge]
      rfl

end

section

variable (installationId : String) (mls : Mls) {groupId conversationId : String}
  {log : List StoredEnvelope} {entry : StoredEnvelope} {processed : Nat}

/-- The group of a record against its log: it has merged the first Commits, all up to the processed
position and all of the device's own. -/
structure Tracks (log : List StoredEnvelope) (merged : List String) (processed : Nat) : Prop where
  starts : merged <+: commitsOf log
  bounded : processed ≤ log.length
  covers : commitsOf (log.take processed) <+: merged
  own : ∀ (index : Nat) (entry : StoredEnvelope), log[index]? = some entry → entry.isCommit →
    entry.senderInstallationId = some installationId → commitsOf (log.take (index + 1)) <+: merged

structure SoundLog (log : List StoredEnvelope) : Prop where
  numbered : Numbered log
  envelopeIds : (log.map StoredEnvelope.envelopeId).Nodup
  bases : ∀ (index : Nat) (entry : StoredEnvelope), log[index]? = some entry → entry.isCommit →
    mls.base entry.envelope = commitsOf (log.take index)

/-- The invariant, but for the record of a conversation that is being written. -/
structure World.SoundBut (busy : Option String) (world : World) : Prop where
  logs : ∀ (conversationId : String) (log : List StoredEnvelope),
    world.logs.lookup conversationId = some log → SoundLog mls log
  records : ∀ (conversationId : String) (record : GroupRecord), conversationId ∉ busy →
    asRecord (world.map.lookup conversationId) = some record →
      ∃ merged log, world.groups.lookup record.groupId = some merged ∧
        world.logs.lookup conversationId = some log ∧
        Tracks installationId log merged record.processedPosition
  apart : ∀ (conversationId other : String) (record record' : GroupRecord),
    asRecord (world.map.lookup conversationId) = some record →
      asRecord (world.map.lookup other) = some record' → record.groupId = record'.groupId →
        conversationId = other
  activated : ∀ (conversationId : String) (log : List StoredEnvelope) (entry : StoredEnvelope),
    conversationId ∉ busy → world.logs.lookup conversationId = some log → entry ∈ log →
      entry.isCommit → entry.senderInstallationId = some installationId →
        (asRecord (world.map.lookup conversationId)).isSome
  welcomes : ∀ welcome ∈ world.welcomes, ∃ log groupId,
    world.logs.lookup welcome.conversationId = some log ∧ welcome.commitPosition ≤ log.length ∧
      mls.welcomeState welcome.welcome =
        some (groupId, commitsOf (log.take welcome.commitPosition))

abbrev World.Sound (world : World) : Prop := world.SoundBut installationId mls none

variable {installationId mls} {world : World} {busy : Option String}

theorem World.SoundBut.followsLogs (sound : world.Sound installationId mls) :
    world.FollowsLogs installationId where
  merged := by
    intro conversationId record hrecord
    obtain ⟨merged, log, hgroup, hlog, htracks⟩ :=
      sound.records conversationId record nofun hrecord
    refine ⟨merged, log, hgroup, hlog, htracks.starts, ?_⟩
    rw [(sound.logs conversationId log hlog).numbered.filter_eq]
    exact htracks.covers
  activated := fun conversationId log entry hlog hhead =>
    sound.activated conversationId log entry nofun hlog (List.mem_of_mem_head? hhead)

theorem World.SoundBut.but (sound : world.Sound installationId mls) (busy : Option String) :
    world.SoundBut installationId mls busy where
  logs := sound.logs
  records := fun conversationId record _ => sound.records conversationId record nofun
  apart := sound.apart
  activated := fun conversationId log entry _ => sound.activated conversationId log entry nofun
  welcomes := sound.welcomes

def World.Names (world : World) (busy : Option String) (groupId : String) : Prop :=
  ∀ (conversationId : String) (record : GroupRecord),
    asRecord (world.map.lookup conversationId) = some record → record.groupId = groupId →
      conversationId ∈ busy

theorem World.SoundBut.withGroup (sound : world.SoundBut installationId mls busy)
    (names : world.Names busy groupId) (merged : List String) :
    World.SoundBut installationId mls busy
      { world with groups := assign groupId merged world.groups } where
  logs := sound.logs
  records := by
    intro conversationId record hbusy hrecord
    obtain ⟨merged, log, hgroup, hlog, htracks⟩ :=
      sound.records conversationId record hbusy hrecord
    have hne : record.groupId ≠ groupId := fun hsame =>
      hbusy (names conversationId record hrecord hsame)
    exact ⟨merged, log, (lookup_assign_of_ne hne).trans hgroup, hlog, htracks⟩
  apart := sound.apart
  activated := sound.activated
  welcomes := sound.welcomes

theorem World.SoundBut.names_none (sound : world.Sound installationId mls)
    (absent : world.groups.lookup groupId = none) : world.Names none groupId := by
  rintro conversationId record hrecord rfl
  obtain ⟨merged, log, hgroup, _, _⟩ := sound.records conversationId record nofun hrecord
  rw [absent] at hgroup
  cases hgroup

theorem World.SoundBut.names (sound : world.SoundBut installationId mls busy) {record : GroupRecord}
    (h : asRecord (world.map.lookup conversationId) = some record) :
    world.Names (some conversationId) record.groupId := by
  intro other record' hother hsame
  exact congrArg some (sound.apart other conversationId record' record hother h hsame).symm

theorem World.SoundBut.remember {position : Nat} {merged : List String}
    (sound : world.SoundBut installationId mls (some conversationId))
    (names : world.Names (some conversationId) groupId)
    (group : world.groups.lookup groupId = some merged)
    (hlog : world.logs.lookup conversationId = some log)
    (tracks : Tracks installationId log merged position) :
    World.Sound installationId mls
      { world with map := assign conversationId (.record ⟨groupId, position⟩) world.map } where
  logs := sound.logs
  records := by
    intro other record _ hrecord
    rcases eq_or_ne other conversationId with rfl | hne
    · rw [lookup_assign_self] at hrecord
      cases hrecord
      exact ⟨merged, log, group, hlog, tracks⟩
    · rw [lookup_assign_of_ne hne] at hrecord
      exact sound.records other record (fun hbusy => hne (Option.some.inj hbusy).symm) hrecord
  apart := by
    intro first second record record' hfirst hsecond hsame
    rcases eq_or_ne first conversationId with rfl | hfirstNe
    · rw [lookup_assign_self] at hfirst
      cases hfirst
      by_contra hne
      rw [lookup_assign_of_ne (Ne.symm hne)] at hsecond
      exact hne (Option.some.inj (names second record' hsecond hsame.symm))
    · rw [lookup_assign_of_ne hfirstNe] at hfirst
      rcases eq_or_ne second conversationId with rfl | hsecondNe
      · rw [lookup_assign_self] at hsecond
        cases hsecond
        exact (Option.some.inj (names first record hfirst hsame)).symm
      · rw [lookup_assign_of_ne hsecondNe] at hsecond
        exact sound.apart first second record record' hfirst hsecond hsame
  activated := by
    intro other log entry _ hlog hentry hcommit hown
    rcases eq_or_ne other conversationId with rfl | hne
    · dsimp only
      rw [lookup_assign_self]
      rfl
    · dsimp only
      rw [lookup_assign_of_ne hne]
      exact sound.activated other log entry (fun hbusy => hne (Option.some.inj hbusy).symm) hlog
        hentry hcommit hown
  welcomes := sound.welcomes

theorem World.SoundBut.withLog (sound : world.SoundBut installationId mls (some conversationId))
    (hlog : SoundLog mls log)
    (grows : ∀ old, world.logs.lookup conversationId = some old → old <+: log) :
    World.SoundBut installationId mls (some conversationId)
      { world with logs := assign conversationId log world.logs } where
  logs := by
    intro other log' hlog'
    rcases eq_or_ne other conversationId with rfl | hne
    · rw [lookup_assign_self] at hlog'
      cases hlog'
      exact hlog
    · rw [lookup_assign_of_ne hne] at hlog'
      exact sound.logs other log' hlog'
  records := by
    intro other record hbusy hrecord
    obtain ⟨merged, log', hgroup, hlog', htracks⟩ := sound.records other record hbusy hrecord
    have hne : other ≠ conversationId := fun hsame => hbusy (congrArg some hsame.symm)
    exact ⟨merged, log', hgroup, (lookup_assign_of_ne hne).trans hlog', htracks⟩
  apart := sound.apart
  activated := by
    intro other log' entry hbusy hlog'
    have hne : other ≠ conversationId := fun hsame => hbusy (congrArg some hsame.symm)
    rw [lookup_assign_of_ne hne] at hlog'
    exact sound.activated other log' entry hbusy hlog'
  welcomes := by
    intro welcome hwelcome
    obtain ⟨old, groupId, hold, hbound, hstate⟩ := sound.welcomes welcome hwelcome
    rcases eq_or_ne welcome.conversationId conversationId with hsame | hne
    · rw [hsame] at hold
      obtain ⟨later, rfl⟩ := grows old hold
      refine ⟨old ++ later, groupId, ?_, ?_, ?_⟩
      · dsimp only
        rw [hsame, lookup_assign_self]
      · rw [List.length_append]
        omega
      · rw [List.take_append_of_le_length hbound]
        exact hstate
    · exact ⟨old, groupId, (lookup_assign_of_ne hne).trans hold, hbound, hstate⟩

theorem World.SoundBut.restore (sound : world.SoundBut installationId mls (some conversationId))
    (records : ∀ record, asRecord (world.map.lookup conversationId) = some record →
      ∃ merged log, world.groups.lookup record.groupId = some merged ∧
        world.logs.lookup conversationId = some log ∧
        Tracks installationId log merged record.processedPosition)
    (activated : ∀ (log : List StoredEnvelope) (entry : StoredEnvelope),
      world.logs.lookup conversationId = some log → entry ∈ log → entry.isCommit →
        entry.senderInstallationId = some installationId →
          (asRecord (world.map.lookup conversationId)).isSome) :
    world.Sound installationId mls where
  logs := sound.logs
  records := by
    intro other record _ hrecord
    rcases eq_or_ne other conversationId with rfl | hne
    · exact records record hrecord
    · exact sound.records other record (fun hbusy => hne (Option.some.inj hbusy).symm) hrecord
  apart := sound.apart
  activated := by
    intro other log entry _ hlog
    rcases eq_or_ne other conversationId with rfl | hne
    · exact activated log entry hlog
    · exact sound.activated other log entry (fun hbusy => hne (Option.some.inj hbusy).symm) hlog
  welcomes := sound.welcomes

theorem SoundLog.append (sound : SoundLog mls log) (position : entry.position = log.length + 1)
    (fresh : entry.envelopeId ∉ log.map StoredEnvelope.envelopeId)
    (base : entry.isCommit → mls.base entry.envelope = commitsOf log) :
    SoundLog mls (log ++ [entry]) where
  numbered := sound.numbered.append position
  envelopeIds := by
    rw [List.map_append, List.nodup_append]
    refine ⟨sound.envelopeIds, List.nodup_singleton _, ?_⟩
    rintro envelopeId hmem other hother rfl
    rw [List.map_singleton, List.mem_singleton] at hother
    exact fresh (hother ▸ hmem)
  bases := by
    intro index other hother hcommit
    rcases Nat.lt_or_ge index log.length with hlt | hge
    · rw [List.getElem?_append_left hlt] at hother
      rw [List.take_append_of_le_length hlt.le]
      exact sound.bases index other hother hcommit
    · rw [List.getElem?_append_right hge, List.getElem?_singleton] at hother
      split_ifs at hother with hindex
      cases hother
      rw [List.take_append_of_le_length (by omega), List.take_of_length_le (by omega)]
      exact base hcommit

theorem SoundLog.nil : SoundLog mls [] where
  numbered := nofun
  envelopeIds := List.nodup_nil
  bases := nofun

theorem Tracks.of_eq {merged : List String} (h : merged = commitsOf log)
    (bounded : processed ≤ log.length) :
    Tracks installationId log merged processed where
  starts := h ▸ List.prefix_refl _
  bounded := bounded
  covers := h ▸ commitsOf_take_prefix log processed
  own := fun index _ _ _ _ => h ▸ commitsOf_take_prefix log (index + 1)

theorem Tracks.append {merged : List String} (h : Tracks installationId log merged processed)
    (other : entry.isCommit → entry.senderInstallationId ≠ some installationId) :
    Tracks installationId (log ++ [entry]) merged processed where
  starts := by
    rw [commitsOf_append]
    exact h.starts.trans (List.prefix_append _ _)
  bounded := by
    rw [List.length_append]
    exact Nat.le_add_right_of_le h.bounded
  covers := by
    rw [List.take_append_of_le_length h.bounded]
    exact h.covers
  own := by
    intro index later hlater hcommit hown
    rcases Nat.lt_or_ge index log.length with hlt | hge
    · rw [List.getElem?_append_left hlt] at hlater
      rw [List.take_append_of_le_length hlt]
      exact h.own index later hlater hcommit hown
    · rw [List.getElem?_append_right hge, List.getElem?_singleton] at hlater
      split_ifs at hlater
      cases hlater
      exact absurd hown (other hcommit)

end

section

variable {installationId : String} {mls : Mls} (choice : Choice) (world : World)
  {conversationId : String}

theorem answer_createMlsGroup (groupId : String) :
    answer installationId mls (.createMlsGroup groupId) choice world = (none, world) ∨
      (world.groups.lookup groupId = none ∧
        answer installationId mls (.createMlsGroup groupId) choice world =
          (some (), { world with groups := assign groupId [] world.groups })) := by
  unfold answer
  dsimp only
  split
  · next _ habsent => exact Or.inr ⟨habsent, rfl⟩
  · exact Or.inl rfl

theorem answer_addMlsMembers (groupId : String) (keyPackages : List String) :
    answer installationId mls (.addMlsMembers groupId keyPackages) choice world =
        (none, world) ∨
      ∃ (added : MlsAddMemberResult) (merged : List String),
        world.groups.lookup groupId = some merged ∧ mls.base added.commit = merged ∧
          added.epoch = merged.length + 1 ∧
          answer installationId mls (.addMlsMembers groupId keyPackages) choice world =
            (some added, world.merge groupId added.commit merged) := by
  unfold answer
  dsimp only
  split
  · next added merged _ hmerged =>
      split_ifs with hbase
      · exact Or.inr ⟨{ added with epoch := merged.length + 1 }, merged, hmerged, hbase, rfl, rfl⟩
      · exact Or.inl rfl
  · exact Or.inl rfl

theorem answer_removeMlsMember (groupId signatureKey : String) :
    answer installationId mls (.removeMlsMember groupId signatureKey) choice world =
        (none, world) ∨
      ∃ (removed : MlsRemoveMemberResult) (merged : List String),
        world.groups.lookup groupId = some merged ∧ mls.base removed.commit = merged ∧
          removed.epoch = merged.length + 1 ∧
          answer installationId mls (.removeMlsMember groupId signatureKey) choice world =
            (some removed, world.merge groupId removed.commit merged) := by
  unfold answer
  dsimp only
  split
  · next removed merged _ hmerged =>
      split_ifs with hbase
      · exact Or.inr ⟨{ removed with epoch := merged.length + 1 }, merged, hmerged, hbase, rfl,
          rfl⟩
      · exact Or.inl rfl
  · exact Or.inl rfl

theorem answer_joinMlsWelcome (welcome : String) :
    answer installationId mls (.joinMlsWelcome welcome) choice world = (none, world) ∨
      ∃ (groupId : String) (merged : List String),
        mls.welcomeState welcome = some (groupId, merged) ∧
          world.groups.lookup groupId = none ∧
          answer installationId mls (.joinMlsWelcome welcome) choice world =
            (some groupId, { world with groups := assign groupId merged world.groups }) := by
  unfold answer
  dsimp only
  split
  · next _ groupId merged _ hstate =>
      split_ifs with hknown
      · exact Or.inl rfl
      · exact Or.inr ⟨groupId, merged, hstate, Option.not_isSome_iff_eq_none.mp hknown, rfl⟩
  · exact Or.inl rfl

theorem answer_processMlsCommit (groupId commit : String) :
    answer installationId mls (.processMlsCommit groupId commit) choice world = (none, world) ∨
      ∃ merged : List String, world.groups.lookup groupId = some merged ∧
        mls.base commit = merged ∧
        answer installationId mls (.processMlsCommit groupId commit) choice world =
          (some (), world.merge groupId commit merged) := by
  unfold answer
  dsimp only
  split
  · next merged _ hmerged =>
      split_ifs with hbase
      · exact Or.inr ⟨merged, hmerged, hbase, rfl⟩
      · exact Or.inl rfl
  · exact Or.inl rfl

variable {choice world}

theorem answer_postConversation {input : ActivationRequest}
    (h : Delivered (.postConversation input) choice world) :
    (∃ reply : Response Unit, (∀ body, reply ≠ .accepted body) ∧
      answer installationId mls (.postConversation input) choice world = (reply, world)) ∨
    (world.canActivate input = true ∧
      answer installationId mls (.postConversation input) choice world =
        (.accepted (), world.activate installationId input)) := by
  unfold answer
  dsimp only
  split_ifs with heffect
  · have hreply : choice.given (.postConversation input) = .accepted () := by
      have hdelivered : (!(choice.takesEffect && world.canActivate input) ||
        decide (choice.given (.postConversation input) = .accepted ())) = true := h
      rw [heffect, Bool.not_true, Bool.false_or] at hdelivered
      exact of_decide_eq_true hdelivered
    rw [hreply]
    exact Or.inr ⟨(Bool.and_eq_true_iff.mp heffect).2, rfl⟩
  · refine Or.inl ⟨_, ?_, rfl⟩
    unfold Response.withoutEffect
    split
    · exact nofun
    · next _ hreply => exact hreply

theorem answer_postCommit {input : CommitRequest}
    (h : Delivered (.postCommit conversationId input) choice world) :
    ∃ (log : List StoredEnvelope) (reply : Response Nat),
      world.commitLog conversationId input = some log ∧
      (∀ position, reply = .accepted position → position = log.length + 1) ∧
      answer installationId mls (.postCommit conversationId input) choice world =
        (reply, world.append installationId conversationId log input) := by
  obtain ⟨heffect, hlog⟩ := Bool.and_eq_true_iff.mp h
  obtain ⟨log, hlog⟩ := Option.isSome_iff_exists.mp hlog
  unfold answer
  dsimp only
  rw [heffect, hlog]
  dsimp only
  refine ⟨log, _, rfl, fun position hposition => ?_, rfl⟩
  split at hposition
  · cases hposition
    rfl
  · next _ hreply => exact absurd hposition (hreply position)

theorem answer_getConversation (h : Delivered (.getConversation conversationId) choice world) :
    ∃ detail, answer installationId mls (.getConversation conversationId) choice world =
      (.accepted detail, world) := by
  unfold Delivered delivered at h
  dsimp only at h
  split at h
  · next detail hdetail => exact ⟨detail, Prod.ext hdetail rfl⟩
  · cases h

theorem answer_getEnvelope (conversationId envelopeId : String) :
    (answer installationId mls (.getEnvelope conversationId envelopeId) choice world).2 = world ∧
      ∀ body, (answer installationId mls (.getEnvelope conversationId envelopeId) choice
        world).1 = .accepted body → ∃ entry : StoredEnvelope,
          (((world.logs.lookup conversationId).getD []).find?
            fun entry => entry.envelopeId == envelopeId) = some entry ∧
          body = ⟨entry.envelope, entry.senderInstallationId⟩ := by
  unfold answer
  dsimp only
  split
  · split
    · next entry hentry =>
        refine ⟨rfl, ?_⟩
        rintro body ⟨⟩
        exact ⟨entry, hentry, rfl⟩
    · exact ⟨rfl, nofun⟩
  · next hreply => exact ⟨rfl, fun body hbody => absurd hbody (hreply body)⟩

end

section

variable {installationId : String} {mls : Mls} {world : World} {α : Type} {conversationId : String}
  {record : GroupRecord} {log : List StoredEnvelope} {entry : StoredEnvelope}

/-- However its requests are answered, the call ends in a sound state. -/
abbrev KeepsSound (installationId : String) (mls : Mls) (program : Call α) (world : World) : Prop :=
  Safe (answer installationId mls) Delivered
    (fun _ reached => reached.Sound installationId mls) program world

theorem KeepsSound.ignore {program : Call α} (h : KeepsSound installationId mls program world) :
    KeepsSound installationId mls (program >>= fun _ => pure ()) world := by
  refine safe_bind (h.mono fun outcome reached sound => ?_)
  cases outcome <;> exact sound

theorem activatePlannedConversation_keeps (sha256 : String → String) (groupId envelopeId : String)
    (planned : Response Planned) (sound : world.Sound installationId mls) :
    KeepsSound installationId mls (activatePlannedConversation sha256 groupId envelopeId planned)
      world := by
  unfold activatePlannedConversation
  rcases planned with _ | _ | planned
  · exact sound
  · exact sound
  dsimp only [expect, pure_eq, done_bind]
  cases planned with
  | existing conversationId => exact sound
  | plan plan =>
    dsimp only
    split_ifs
    · exact sound
    refine fun choice _ => ?_
    rcases answer_createMlsGroup choice world groupId with h | ⟨habsent, h⟩
    · rw [h]
      exact sound
    rw [h]
    have hnames := sound.names_none habsent
    have hsound := sound.withGroup hnames []
    refine fun choice _ => ?_
    rcases answer_addMlsMembers choice _ groupId
      _ with h | ⟨added, merged, hmerged, hbase, hepoch, h⟩
    · rw [h]
      exact hsound
    rw [h]
    rw [lookup_assign_self] at hmerged
    cases hmerged
    have hadded := hsound.withGroup hnames [added.commit]
    refine fun choice delivered => ?_
    rcases answer_postConversation delivered with
      ⟨reply, hreply, h⟩ | ⟨hfree, h⟩
    · rw [h]
      rcases reply with _ | _ | body
      · exact hadded
      · exact hadded
      · exact absurd rfl (hreply body)
    rw [h]
    obtain ⟨habsent, _⟩ := Bool.and_eq_true_iff.mp hfree
    have habsent := Option.isNone_iff_eq_none.mp habsent
    have hlog : SoundLog mls [ownCommit installationId [] envelopeId added.commit] :=
      SoundLog.nil.append rfl List.not_mem_nil fun _ => hbase
    have hstored := (hadded.but (some plan.conversationId)).withLog hlog fun old hold =>
      nomatch habsent.symm.trans hold
    refine fun choice _ => ?_
    refine fun choice _ => ?_
    refine hstored.remember ?_ lookup_assign_self lookup_assign_self (.of_eq rfl le_rfl)
    intro other record hother hsame
    exact absurd (hnames other record hother hsame) nofun

theorem postMembershipCommit_keeps (sha256 : String → String) {envelopeId : String}
    {composed : RelayIntentResponse} {made : MembershipMls} {merged : List String}
    (sound : world.SoundBut installationId mls (some conversationId))
    (hrecord : asRecord (world.map.lookup conversationId) = some record)
    (hgroup : world.groups.lookup record.groupId = some (merged ++ [made.commit]))
    (hlog : world.logs.lookup conversationId = some log)
    (tracks : Tracks installationId log merged record.processedPosition)
    (hbase : mls.base made.commit = merged) (hepoch : made.epoch = merged.length + 1) :
    KeepsSound installationId mls
      (postMembershipCommit sha256 conversationId envelopeId composed made) world := by
  unfold postMembershipCommit
  refine fun choice delivered => ?_
  obtain ⟨detail, h⟩ := answer_getConversation delivered
  rw [h]
  refine fun choice delivered => ?_
  obtain ⟨log', reply, hcommit, hposition, h⟩ := answer_postCommit
    delivered
  rw [h]
  obtain ⟨hsame, hmatches⟩ := Option.filter_eq_some_iff.mp hcommit
  cases hlog.symm.trans hsame
  obtain ⟨_, hresulting, hfresh⟩ := of_decide_eq_true hmatches
  have hlength : merged.length + 1 = (commitsOf log).length + 1 := hepoch.symm.trans hresulting
  have hmerged : merged = commitsOf log := tracks.starts.eq_of_length (by omega)
  -- The stored Commit is the one that was merged.
  have hall : merged ++ [made.commit] =
      commitsOf (log ++ [ownCommit installationId log envelopeId made.commit]) := by
    rw [commitsOf_append, hmerged]
    rfl
  have hlater : SoundLog mls (log ++ [ownCommit installationId log envelopeId made.commit]) :=
    (sound.logs conversationId log hlog).append rfl hfresh fun _ => hbase.trans hmerged
  have hstored := sound.withLog hlater fun old hold => by
    cases hlog.symm.trans hold
    exact List.prefix_append _ _
  have hbound := tracks.bounded
  have htracks {position : Nat} (hle : position ≤ log.length + 1) :
      Tracks installationId (log ++ [ownCommit installationId log envelopeId made.commit])
        (merged ++ [made.commit]) position :=
    .of_eq hall (by simpa using hle)
  have hkept : World.Sound installationId mls _ := hstored.restore (fun other hother => by
      cases hrecord.symm.trans hother
      exact ⟨_, _, hgroup, lookup_assign_self, htracks (by omega)⟩) fun _ _ _ _ _ _ => by
        rw [hrecord]
        rfl
  rcases reply with _ | _ | position
  · exact hkept
  · exact hkept
  obtain rfl := hposition position rfl
  refine fun choice _ => ?_
  dsimp only [answer, World.append, groupRecordFor, readGroupMap, Program.bind, pure_eq]
  rw [hrecord]
  exact fun _ _ _ _ => (hkept.but (some conversationId)).remember (sound.names hrecord) hgroup
    lookup_assign_self (htracks le_rfl)

theorem World.SoundBut.merged (sound : world.Sound installationId mls)
    (hrecord : asRecord (world.map.lookup conversationId) = some record) {merged : List String}
    (hgroup : world.groups.lookup record.groupId = some merged) (commit : String) :
    (world.merge record.groupId commit merged).SoundBut installationId mls (some conversationId) ∧
      ∃ log, (world.merge record.groupId commit merged).logs.lookup conversationId = some log ∧
        Tracks installationId log merged record.processedPosition := by
  obtain ⟨merged', log, hgroup', hlog, htracks⟩ :=
    sound.records conversationId record nofun hrecord
  cases hgroup.symm.trans hgroup'
  exact ⟨(sound.but (some conversationId)).withGroup (sound.names hrecord) _, log, hlog, htracks⟩

theorem enableRelay_keeps (sha256 : String → String) (envelopeId conversationId kind : String)
    (sound : world.Sound installationId mls) :
    KeepsSound installationId mls (enableRelay sha256 envelopeId conversationId kind) world := by
  unfold enableRelay
  rw [groupIdFor_bind]
  refine fun choice _ => ?_
  dsimp only [answer]
  cases hrecord : asRecord (world.map.lookup conversationId) with
  | none => exact sound
  | some record =>
    dsimp only [Option.map_some]
    refine fun choice _ => ?_
    dsimp only [answer]
    rcases choice.given (.postRelay conversationId kind) with _ | _ | composed
    · exact sound
    · exact sound
    dsimp only [expect, pure_eq, Program.bind]
    cases composed.intent.takenKeyPackage with
    | none => exact sound
    | some keyPackage =>
      dsimp only
      split_ifs
      · exact sound
      refine fun choice _ => ?_
      rcases answer_addMlsMembers choice world
        record.groupId [keyPackage] with h | ⟨added, merged, hgroup, hbase, hepoch, h⟩
      · rw [h]
        exact sound
      rw [h]
      obtain ⟨hsound, log, hlog, htracks⟩ := sound.merged hrecord hgroup added.commit
      exact postMembershipCommit_keeps sha256 hsound hrecord lookup_assign_self hlog htracks
        hbase hepoch

theorem disableRelay_keeps (sha256 : String → String) (envelopeId conversationId : String)
    (sound : world.Sound installationId mls) :
    KeepsSound installationId mls (disableRelay sha256 envelopeId conversationId) world := by
  unfold disableRelay
  rw [groupIdFor_bind]
  refine fun choice _ => ?_
  dsimp only [answer]
  cases hrecord : asRecord (world.map.lookup conversationId) with
  | none => exact sound
  | some record =>
    dsimp only [Option.map_some]
    refine fun choice _ => ?_
    dsimp only [answer]
    rcases choice.given (.deleteRelay conversationId) with _ | _ | composed
    · exact sound
    · exact sound
    refine fun choice _ => ?_
    rcases answer_removeMlsMember choice world
      record.groupId composed.relaySignatureKey with h | ⟨removed, merged, hgroup, hbase, hepoch, h⟩
    · rw [h]
      exact sound
    rw [h]
    obtain ⟨hsound, log, hlog, htracks⟩ := sound.merged hrecord hgroup removed.commit
    exact postMembershipCommit_keeps sha256 hsound hrecord lookup_assign_self hlog htracks
      hbase hepoch

theorem joinWelcomes_keeps {entries : List WelcomeEntry} (sound : world.Sound installationId mls)
    (listed : ∀ entry ∈ entries, entry ∈ world.welcomes) :
    KeepsSound installationId mls (joinWelcomes entries) world := by
  induction entries generalizing world with
  | nil => exact sound
  | cons entry entries ih =>
    have hlater := fun later hmem => listed later (List.mem_cons_of_mem _ hmem)
    unfold joinWelcomes
    rw [groupIdFor_bind]
    refine fun choice _ => ?_
    dsimp only [answer]
    cases hrecord : asRecord (world.map.lookup entry.conversationId) with
    | some record => exact ih sound hlater
    | none =>
      dsimp only [Option.map_none]
      refine fun choice _ => ?_
      rcases answer_joinMlsWelcome choice world
        entry.welcome with h | ⟨groupId, merged, hstate, habsent, h⟩
      · rw [h]
        exact sound
      rw [h]
      obtain ⟨log, groupId', hlog, hbound, hwelcome⟩ :=
        sound.welcomes entry (listed entry List.mem_cons_self)
      cases hstate.symm.trans hwelcome
      have hnames := sound.names_none habsent
      have hjoined := sound.withGroup hnames (commitsOf (log.take entry.commitPosition))
      have htracks : Tracks installationId log (commitsOf (log.take entry.commitPosition))
          entry.commitPosition := {
        starts := commitsOf_take_prefix log entry.commitPosition
        bounded := hbound
        covers := List.prefix_refl _
        own := fun index other hother hcommit hown => by
          have hactive := sound.activated entry.conversationId log other nofun hlog
            (List.mem_of_getElem? hother) hcommit hown
          rw [hrecord] at hactive
          cases hactive }
      refine fun choice _ choice _ => ih ?_ hlater
      exact (hjoined.but (some entry.conversationId)).remember
        (fun other record hother hsame => absurd (hnames other record hother hsame) nofun)
        lookup_assign_self hlog htracks

theorem syncWelcomes_keeps (session : Option String) (sound : world.Sound installationId mls) :
    KeepsSound installationId mls (syncWelcomes session) world := by
  unfold syncWelcomes
  cases session with
  | none => exact sound
  | some session =>
    refine fun choice _ => ?_
    dsimp only [answer]
    rcases choice.given (.getWelcomes session) with _ | _ | entries
    · exact sound
    · exact sound
    · exact joinWelcomes_keeps sound fun entry hentry =>
        of_decide_eq_true (List.mem_filter.mp hentry).2

theorem SoundLog.find?_eq (sound : SoundLog mls log) (hentry : entry ∈ log) :
    (log.find? fun other => other.envelopeId == entry.envelopeId) = some entry := by
  have hsome : (log.find? fun other => other.envelopeId == entry.envelopeId).isSome :=
    List.find?_isSome.mpr ⟨entry, hentry, beq_self_eq_true _⟩
  obtain ⟨other, hother⟩ := Option.isSome_iff_exists.mp hsome
  rw [hother]
  exact congrArg some (List.inj_on_of_nodup_map sound.envelopeIds
    (List.mem_of_find?_eq_some hother) hentry (by simpa using List.find?_some hother))

theorem Tracks.process {merged : List String} {processed index : Nat}
    (h : Tracks installationId log merged processed) (soundLog : SoundLog mls log)
    (hentry : log[index]? = some entry) (commit : entry.isCommit)
    (hbase : mls.base entry.envelope = merged) :
    Tracks installationId log (merged ++ [entry.envelope]) entry.position := by
  have hposition := soundLog.numbered index entry hentry
  have hmerged : merged ++ [entry.envelope] = commitsOf (log.take (index + 1)) := by
    rw [commitsOf_take_succ hentry commit, ← hbase, soundLog.bases index entry hentry commit]
  exact {
    starts := hmerged ▸ commitsOf_take_prefix log (index + 1)
    bounded := hposition ▸ (List.getElem?_eq_some_iff.mp hentry).1
    covers := by
      rw [hmerged, hposition]
    own := fun other later hlater hcommit hown =>
      (h.own other later hlater hcommit hown).trans (List.prefix_append _ _) }

theorem decryptEvents_keeps {groupId : String} {events : List ConversationEvent} {processed : Nat}
    {cache : MessageCache} (sound : world.Sound installationId mls)
    (hrecord : asRecord (world.map.lookup conversationId) = some ⟨groupId, processed⟩)
    (hlog : world.logs.lookup conversationId = some log)
    (listed : ∀ event ∈ events, ∃ entry ∈ log, entry.event = event) :
    KeepsSound installationId mls
      (decryptEvents conversationId groupId (some installationId) events processed cache)
      world := by
  induction events generalizing world processed cache with
  | nil => exact sound
  | cons event events ih =>
    obtain ⟨entry, hmem, hevent⟩ := listed event List.mem_cons_self
    have hid : entry.envelopeId = event.envelopeId :=
      congrArg ConversationEvent.envelopeId hevent
    have hplace : entry.position = event.position := congrArg ConversationEvent.position hevent
    have hlater := fun later hmem => listed later (List.mem_cons_of_mem _ hmem)
    have hsoundLog := sound.logs conversationId log hlog
    unfold decryptEvents
    -- What a fetch answers is the entry of the log.
    have hfetched {choice : Choice} {body : EnvelopeBody}
        (h : (answer installationId mls (.getEnvelope conversationId event.envelopeId) choice
          world).1 = .accepted body) :
        body = ⟨entry.envelope, entry.senderInstallationId⟩ := by
      obtain ⟨other, hother, hbody⟩ := (answer_getEnvelope conversationId
        event.envelopeId).2 body h
      rw [hlog, Option.getD_some, ← hid, hsoundLog.find?_eq hmem] at hother
      rwa [← Option.some.inj hother] at hbody
    cases hclass : event.envelopeClass with
    | externalProposal => exact ih sound hrecord hlog hlater
    | mlsCommit =>
      have hcommit : entry.isCommit = true :=
        decide_eq_true ((congrArg ConversationEvent.envelopeClass hevent).trans hclass)
      dsimp only
      split_ifs
      · exact ih sound hrecord hlog hlater
      refine fun choice _ => ?_
      rw [(answer_getEnvelope conversationId event.envelopeId).1]
      rcases hreply : (answer installationId mls (.getEnvelope conversationId
        event.envelopeId) choice world).1 with _ | _ | body
      · exact sound
      · exact sound
      obtain rfl := hfetched hreply
      dsimp only [okBody, pure_eq, Program.bind]
      obtain ⟨index, hbound, hget⟩ := List.mem_iff_getElem.mp hmem
      have hentry := List.getElem?_eq_some_iff.mpr ⟨hbound, hget⟩
      have hposition := hsoundLog.numbered index entry hentry
      obtain ⟨merged, log', hgroup, hlog', htracks⟩ :=
        sound.records conversationId _ nofun hrecord
      cases hlog.symm.trans hlog'
      split_ifs with hown
      · refine fun choice _ choice _ => ih ?_ ?_ hlog hlater
        · refine (sound.but (some conversationId)).remember (sound.names hrecord) hgroup hlog
            { htracks with bounded := by omega, covers := ?_ }
          rw [← hplace, hposition]
          exact htracks.own index entry hentry hcommit hown
        · dsimp only [answer]
          rw [lookup_assign_self]
          rfl
      · refine fun choice _ => ?_
        rcases answer_processMlsCommit choice world groupId entry.envelope with
          h | ⟨merged', hgroup', hbase, h⟩
        · rw [h]
          exact sound
        rw [h]
        cases hgroup.symm.trans hgroup'
        refine fun choice _ choice _ => ih ?_ ?_ hlog hlater
        · exact (sound.merged hrecord hgroup entry.envelope).1.remember (sound.names hrecord)
            lookup_assign_self hlog
            (hplace ▸ htracks.process hsoundLog hentry hcommit hbase)
        · dsimp only [answer]
          rw [lookup_assign_self]
          rfl
    | application =>
      dsimp only
      split_ifs
      · exact ih sound hrecord hlog hlater
      refine fun choice _ => ?_
      rw [(answer_getEnvelope conversationId event.envelopeId).1]
      rcases (answer installationId mls (.getEnvelope conversationId event.envelopeId) choice
        world).1 with _ | _ | body
      · exact sound
      · exact ih sound hrecord hlog hlater
      dsimp only [okBody, pure_eq, Program.bind]
      split_ifs
      · exact ih sound hrecord hlog hlater
      · exact fun choice _ choice _ => ih sound hrecord hlog hlater

theorem decryptedMessages_keeps (conversationId : String) (count : Nat)
    (sound : world.Sound installationId mls) :
    KeepsSound installationId mls (decryptedMessages conversationId (some installationId)
      (world.listed conversationId count)) world := by
  refine fun choice _ choice _ => ?_
  dsimp only [answer, pure_eq, Program.bind]
  cases hrecord : asRecord (world.map.lookup conversationId) with
  | none => exact sound
  | some record =>
    obtain ⟨merged, log, _, hlog, _⟩ := sound.records conversationId record nofun hrecord
    dsimp only
    unfold World.listed
    rw [hlog, Option.getD_some]
    refine decryptEvents_keeps sound hrecord hlog fun event hevent => ?_
    obtain ⟨entry, hentry, rfl⟩ := List.mem_map.mp hevent
    exact ⟨entry, List.mem_of_mem_take hentry, rfl⟩

theorem DeviceCall.keeps (sha256 : String → String) (call : DeviceCall)
    (sound : world.Sound installationId mls) :
    KeepsSound installationId mls (call.program installationId sha256 world) world := by
  cases call with
  | startConversation groupId envelopeId claimHandle =>
    exact KeepsSound.ignore fun choice _ =>
      activatePlannedConversation_keeps sha256 groupId envelopeId _ sound
  | acceptConversationRequest groupId envelopeId requestId =>
    exact KeepsSound.ignore fun choice _ =>
      activatePlannedConversation_keeps sha256 groupId envelopeId _ sound
  | enableRelay envelopeId conversationId kind =>
    exact enableRelay_keeps sha256 envelopeId conversationId kind sound
  | disableRelay envelopeId conversationId =>
    exact disableRelay_keeps sha256 envelopeId conversationId sound
  | syncWelcomes => exact syncWelcomes_keeps (some installationId) sound
  | decryptedMessages conversationId count =>
    exact (decryptedMessages_keeps conversationId count sound).ignore

end

section

variable {installationId : String} {mls : Mls} {sha256 : String → String} {world : World}

theorem World.fresh_sound : World.fresh.Sound installationId mls where
  logs := nofun
  records := nofun
  apart := nofun
  activated := nofun
  welcomes := nofun

theorem other_keeps {conversationId : String} {entry : StoredEnvelope} {welcome : Option String}
    (sound : world.Sound installationId mls)
    (h : world.admits installationId mls conversationId entry welcome = true) :
    World.Sound installationId mls { world with
      logs := assign conversationId ((world.logs.lookup conversationId).getD [] ++ [entry])
        world.logs
      welcomes := world.welcomes ++
        welcome.toList.map fun welcome => ⟨conversationId, welcome, entry.position⟩ } := by
  unfold World.admits at h
  simp only [Bool.and_eq_true, decide_eq_true_eq] at h
  obtain ⟨⟨⟨hposition, hfresh⟩, hpeer⟩, hwelcome⟩ := h
  have hcommit (commit : entry.isCommit = true) :
      entry.senderInstallationId ≠ some installationId ∧
        mls.base entry.envelope = commitsOf ((world.logs.lookup conversationId).getD []) := by
    rw [commit, Bool.not_true, Bool.false_or, Bool.and_eq_true] at hpeer
    exact ⟨of_decide_eq_true hpeer.1, of_decide_eq_true hpeer.2⟩
  have hbefore : SoundLog mls ((world.logs.lookup conversationId).getD []) := by
    cases hlog : world.logs.lookup conversationId with
    | none => exact .nil
    | some log => exact sound.logs conversationId log hlog
  have hsoundLog := hbefore.append hposition hfresh fun commit => (hcommit commit).2
  have hgrown := (sound.but (some conversationId)).withLog hsoundLog fun old hold => by
    rw [hold, Option.getD_some]
    exact List.prefix_append _ _
  have hkept : World.Sound installationId mls _ := hgrown.restore (fun record hrecord => by
      obtain ⟨merged, log, hgroup, hlog, htracks⟩ :=
        sound.records conversationId record nofun hrecord
      refine ⟨merged, _, hgroup, lookup_assign_self, ?_⟩
      rw [hlog, Option.getD_some]
      exact htracks.append fun commit => (hcommit commit).1) fun log other hlog hother commit hown => by
    rw [lookup_assign_self] at hlog
    cases hlog
    rcases List.mem_append.mp hother with hmem | hlast
    · cases hlog : world.logs.lookup conversationId with
      | none =>
        rw [hlog] at hmem
        cases hmem
      | some log =>
        rw [hlog] at hmem
        exact sound.activated conversationId log other nofun hlog hmem commit hown
    · obtain rfl := List.mem_singleton.mp hlast
      exact absurd hown (hcommit commit).1
  refine { hkept with welcomes := fun known hknown => ?_ }
  rcases List.mem_append.mp hknown with hold | hnew
  · exact hkept.welcomes known hold
  · obtain ⟨brought, hbrought, rfl⟩ := List.mem_map.mp hnew
    rw [Option.mem_toList.mp hbrought, Option.all_some, decide_eq_true_eq] at hwelcome
    obtain ⟨⟨groupId, merged⟩, hstate, hmerged⟩ := Option.map_eq_some_iff.mp hwelcome
    refine ⟨_, groupId, lookup_assign_self, ?_, ?_⟩
    · rw [List.length_append, List.length_singleton, hposition]
    · rw [List.take_of_length_le
        (by rw [List.length_append, List.length_singleton, hposition]), hstate]
      exact congrArg (fun merged => some (groupId, merged)) hmerged

theorem takeStep_keeps {event : Step} {next : World} (sound : world.Sound installationId mls)
    (guarded : Guard installationId mls sha256 event world)
    (h : takeStep installationId mls sha256 event world = some next) :
    next.Sound installationId mls := by
  cases event with
  | call call choices =>
    cases h
    exact safe_solo (call.keeps sha256 sound) guarded
  | other conversationId entry welcome =>
    unfold takeStep at h
    dsimp only at h
    split_ifs at h with hadmits
    cases h
    exact other_keeps sound hadmits

/-- If every activation that takes effect is answered, and every Commit takes effect once it is
merged locally, the groups of the device follow the logs. -/
theorem groups_follow_logs {steps : List Step}
    (guarded : Guarded (takeStep installationId mls sha256) (Guard installationId mls sha256) steps
      .fresh)
    (h : run (takeStep installationId mls sha256) steps .fresh = some world) :
    world.FollowsLogs installationId :=
  (invariant_of_run (fun _ _ _ sound kept hnext => takeStep_keeps sound kept hnext)
    World.fresh_sound guarded h).followsLogs

end

def sampleMls : Mls := {
  base := fun commit =>
    if commit = "commit-2" then ["commit-1"]
    else if commit = "commit-3" then ["commit-1", "commit-2"]
    else []
  welcomeState := fun _ => none }

def samplePlan : ConversationPlan := {
  planId := "plan"
  conversationId := "conversation"
  rosterHash := "roster-hash"
  externalSendersHash := "external-senders-hash"
  roster := [⟨"me", "creator", none⟩, ⟨"peer", "welcome", some "key-package"⟩] }

def sampleIntent (baseEpoch : Nat) : RelayIntentResponse := {
  relayInstallationId := "relay"
  relaySignatureKey := "relay-key"
  intent := {
    intentId := "intent"
    baseEpoch := baseEpoch
    baseRosterVersion := 0
    proposedRosterHash := "roster-hash"
    targetCredentialId := none
    takenKeyPackage := some "relay-key-package" }
  mandatoryProposals := [] }

def sampleGiven (commit : String) (epoch : Nat) (detail : Response ConversationDetail)
    (activated : Response Unit) (committed : Response Nat) : (op : Op) → op.Answer
  | .readGroupMap => []
  | .writeGroupMap _ => ()
  | .readMessageCache _ => []
  | .writeMessageCache _ _ => ()
  | .createMlsGroup _ => some ()
  | .addMlsMembers _ _ => some ⟨commit, "welcome", 0, "transcript"⟩
  | .removeMlsMember _ _ => none
  | .joinMlsWelcome _ => none
  | .sealMlsApplication _ _ => none
  | .openMlsApplication _ _ => none
  | .processMlsCommit _ _ => some ()
  | .planConversation _ => .accepted (.plan samplePlan)
  | .postConversation _ => activated
  | .getWelcomes _ => .accepted []
  | .postRelay _ _ => .accepted (sampleIntent epoch)
  | .deleteRelay _ => .unreachable
  | .getConversation _ => detail
  | .postCommit _ _ => committed
  | .getEnvelope _ _ => .accepted ⟨"", none⟩
  | .postEnvelope _ _ => .unreachable
  | .envelopeReceipt => none

def sampleDetail : ConversationDetail := ⟨"etag", 1, 0, "transcript", 1, none⟩

def sampleStart (activated : Response Unit) : Step :=
  .call (.startConversation "group" "envelope-1" "claim") fun _ =>
    ⟨sampleGiven "commit-1" 0 .unreachable activated .unreachable, true⟩

def sampleEnable (commit : String) (epoch : Nat) (detail : Response ConversationDetail) : Step :=
  .call (.enableRelay "envelope-3" "conversation" "telegram") fun _ =>
    ⟨sampleGiven commit epoch detail .unreachable .unreachable, true⟩

/-- A conversation is activated, another device commits, the Commit is processed, and the response
to a Commit of the device itself is lost. -/
def followedSteps : List Step := [
  sampleStart (.accepted ()),
  .other "conversation" ⟨"envelope-2", .mlsCommit, 2, "commit-2", some "peer"⟩ none,
  .call (.decryptedMessages "conversation" 2) fun _ =>
    ⟨sampleGiven "" 0 .unreachable .unreachable .unreachable, true⟩,
  sampleEnable "commit-3" 2 (.accepted sampleDetail)]

def sampleStep : Step → World → Option World := takeStep "me" sampleMls id

theorem groups_follow_logs_followed :
    ∃ world, run sampleStep followedSteps .fresh = some world ∧
      world.groups = [("group", ["commit-1", "commit-2", "commit-3"])] ∧
      world.FollowsLogs "me" := by
  have guarded : Guarded sampleStep (Guard "me" sampleMls id) followedSteps .fresh := by decide
  exact ⟨_, rfl, by decide, groups_follow_logs guarded rfl⟩

/-- The response to an activation is lost, and the device has no record of the conversation; or the
detail is not read after a local merge, and the group is ahead of the log. -/
theorem lost_response_forgets_group :
    (∃ world, run sampleStep [sampleStart .unreachable] .fresh = some world ∧
      world.map = [] ∧ ¬ world.FollowsLogs "me") ∧
    ∃ world, run sampleStep [sampleStart (.accepted ()), sampleEnable "commit-2" 1 .unreachable]
        .fresh = some world ∧
      world.groups = [("group", ["commit-1", "commit-2"])] ∧ ¬ world.FollowsLogs "me" := by
  refine ⟨⟨_, rfl, by decide, fun follows => ?_⟩, ⟨_, rfl, by decide, fun follows => ?_⟩⟩
  · exact absurd (follows.activated "conversation" _ _ rfl rfl (by decide) rfl) (by decide)
  · obtain ⟨merged, log, hgroup, hlog, hmerged, _⟩ := follows.merged "conversation" _ rfl
    cases hgroup
    cases hlog
    exact absurd hmerged (by decide)

end JbChat.Client.GroupState
