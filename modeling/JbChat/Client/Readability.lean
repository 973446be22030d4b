/- source: src/lib/messaging/conversation.ts, crypto/crates/client-core/src/lib.rs
   digest: Reads of a growing log of Commits and messages in which fetches may fail. -/

import JbChat.Client.Conversation

/-!
The log holds what will be stored in the conversation; the run says how much of it is stored. A
device's own Commits are merged into its group when they are made, those of others when they are
read. The keys of an epoch are deleted with it.
-/

set_option autoImplicit false

namespace JbChat.Client.Readability

open Foundation.Await Foundation.Await.Program Foundation.GuardedRun Delivery.EnvelopeLog
open Conversation

section

/-- A stored envelope, with the text in it if it is a message. -/
structure Entry where
  envelopeId : String
  envelopeClass : EnvelopeClass
  position : Nat
  envelope : String
  senderInstallationId : Option String
  plaintext : String
deriving DecidableEq

def Entry.event (entry : Entry) : ConversationEvent :=
  ⟨entry.envelopeId, entry.envelopeClass, entry.position⟩

def Entry.isCommit (entry : Entry) : Bool := decide (entry.envelopeClass = .mlsCommit)

structure Log where
  entries : List Entry
  positions : entries.Pairwise fun first second => first.position < second.position
  envelopeIds : (entries.map Entry.envelopeId).Nodup
  envelopes : (entries.map Entry.envelope).Nodup

def Log.epochAt (log : Log) (index : Nat) : Nat := (log.entries.take index).countP Entry.isCommit

structure Device where
  groups : GroupMap
  cache : MessageCache
  epoch : Nat
  opened : List String

inductive Fetch where
  | answered
  | refused
  | unreachable

def Log.fetched (log : Log) (envelopeId : String) : Fetch → Response EnvelopeBody
  | .answered =>
    match log.entries.find? fun entry => entry.envelopeId == envelopeId with
    | some entry => .accepted ⟨entry.envelope, entry.senderInstallationId⟩
    | none => .refused none
  | .refused => .refused none
  | .unreachable => .unreachable

/-- What the page, the server and the group answer to a poll. A group merges a Commit of its epoch
and opens a message of its epoch once. -/
def Log.answer (log : Log) : (op : Op) → (String → Fetch) → Device → op.Answer × Device
  | .readGroupMap, _, device => (device.groups, device)
  | .writeGroupMap map, _, device => ((), { device with groups := map })
  | .readMessageCache _, _, device => (device.cache, device)
  | .writeMessageCache _ cache, _, device => ((), { device with cache := cache })
  | .getEnvelope _ envelopeId, fetches, device =>
    (log.fetched envelopeId (fetches envelopeId), device)
  | .processMlsCommit _ commit, _, device =>
    if log.epochAt (log.entries.findIdx fun entry => entry.envelope == commit) = device.epoch
    then (some (), { device with epoch := device.epoch + 1 })
    else (none, device)
  | .openMlsApplication _ message, _, device =>
    match log.entries.find? fun entry => entry.envelope == message with
    | some entry =>
      if log.epochAt (log.entries.findIdx fun entry => entry.envelope == message) =
          device.epoch ∧ message ∉ device.opened
      then (some entry.plaintext, { device with opened := message :: device.opened })
      else (none, device)
    | none => (none, device)
  | .createMlsGroup _, _, device => (none, device)
  | .addMlsMembers _ _, _, device => (none, device)
  | .removeMlsMember _ _, _, device => (none, device)
  | .joinMlsWelcome _, _, device => (none, device)
  | .sealMlsApplication _ _, _, device => (none, device)
  | .planConversation _, _, device => (.unreachable, device)
  | .postConversation _, _, device => (.unreachable, device)
  | .getWelcomes _, _, device => (.unreachable, device)
  | .postRelay _ _, _, device => (.unreachable, device)
  | .deleteRelay _, _, device => (.unreachable, device)
  | .getConversation _, _, device => (.unreachable, device)
  | .postCommit _ _, _, device => (.unreachable, device)
  | .postEnvelope _ _, _, device => (.unreachable, device)
  | .envelopeReceipt, _, device => (none, device)

variable (log : Log) (conversationId : String) (installationId : Option String)

/-- One call of `decryptedMessages` for the first entries of the log. -/
def Log.poll (listed : Nat) (fetches : String → Fetch) (device : Device) : Device :=
  (solo log.answer (decryptedMessages conversationId installationId
    ((log.entries.take listed).map Entry.event)) (fun _ => fetches) device).2

structure State where
  stored : Nat
  device : Device

/-- The next entry of the log is stored, or the page polls. -/
inductive Step where
  | store (answered : Bool)
  | poll (listed : Nat) (fetches : String → Fetch)

/-- The device has made the Commit in the epoch of the log; `answered` says whether it learned of
the position of the Commit. -/
def Device.committed (device : Device) (conversationId : String) (answered : Bool)
    (position : Nat) : Device :=
  { device with
    epoch := device.epoch + 1
    groups := match asRecord (device.groups.lookup conversationId), answered with
      | some record, true =>
        assign conversationId (.record ⟨record.groupId, position⟩) device.groups
      | _, _ => device.groups }

def takeStep : Step → State → Option State
  | .store answered, state =>
    match log.entries[state.stored]? with
    | none => none
    | some entry =>
      if entry.isCommit ∧ entry.senderInstallationId = installationId then
        if state.device.epoch = log.epochAt state.stored then
          some ⟨state.stored + 1, state.device.committed conversationId answered
            entry.position⟩
        else none
      else some ⟨state.stored + 1, state.device⟩
  | .poll listed fetches, state =>
    if listed ≤ state.stored then
      some ⟨state.stored, log.poll conversationId installationId listed fetches state.device⟩
    else none

end

section

variable (installationId : Option String) (joined : Nat)

/-- A message of another sender that was stored after the device had joined. -/
def Entry.IsPeerMessage (entry : Entry) : Prop :=
  entry.envelopeClass = .application ∧ entry.senderInstallationId ≠ installationId ∧
    joined < entry.position

instance (entry : Entry) : Decidable (entry.IsPeerMessage installationId joined) :=
  inferInstanceAs (Decidable (_ ∧ _ ∧ _))

def Entry.IsUnread (cache : MessageCache) (entry : Entry) : Prop :=
  entry.IsPeerMessage installationId joined ∧ entry.plaintext ≠ "" ∧
    cache.lookup entry.envelopeId = none

instance (cache : MessageCache) (entry : Entry) :
    Decidable (entry.IsUnread installationId joined cache) :=
  inferInstanceAs (Decidable (_ ∧ _ ∧ _))

/-- No Commit of another device is merged after the fetch of an unread message was refused:
`skipped` says whether one was, `processed` which Commits were merged before. -/
def keepsUnread (fetches : String → Fetch) (cache : MessageCache) :
    Bool → Nat → List Entry → Bool
  | _, _, [] => true
  | skipped, processed, entry :: rest =>
    match entry.envelopeClass with
    | .mlsCommit =>
      if entry.position ≤ processed then keepsUnread fetches cache skipped processed rest
      else match fetches entry.envelopeId with
        | .answered => (decide (entry.senderInstallationId = installationId) || !skipped) &&
            keepsUnread fetches cache skipped entry.position rest
        | _ => true
    | .application =>
      if (cache.lookup entry.envelopeId).isSome then
        keepsUnread fetches cache skipped processed rest
      else match fetches entry.envelopeId with
        | .answered => keepsUnread fetches cache skipped processed rest
        | .refused => keepsUnread fetches cache
            (skipped || decide (entry.IsUnread installationId joined cache)) processed rest
        | .unreachable => true
    | .externalProposal => keepsUnread fetches cache skipped processed rest

variable (log : Log) (conversationId : String)

/-- No call merges a Commit after the fetch of an unread message was refused in it, and the device
makes no Commit while a stored message is unread. -/
def Keeps : Step → State → Prop
  | .store _, state => ∀ entry ∈ log.entries[state.stored]?,
      entry.isCommit → entry.senderInstallationId = installationId →
        ∀ earlier ∈ log.entries.take state.stored,
          ¬ earlier.IsUnread installationId joined state.device.cache
  | .poll listed fetches, state =>
    ∀ record ∈ asRecord (state.device.groups.lookup conversationId),
      keepsUnread installationId joined fetches state.device.cache false
        record.processedPosition (log.entries.take listed)

instance Keeps.decide : (event : Step) → (state : State) →
    Decidable (Keeps installationId joined log conversationId event state)
  | .store _, state => inferInstanceAs (Decidable (∀ entry ∈ log.entries[state.stored]?, _ → _ →
      ∀ earlier ∈ log.entries.take state.stored, ¬ _))
  | .poll _ _, state => inferInstanceAs (Decidable (∀ record ∈
      asRecord (state.device.groups.lookup conversationId), _ = true))

/-- The device has joined: its group has merged what was stored, and has met nothing of what
comes. -/
structure Log.JoinedAt (state : State) : Prop where
  stored : ∀ (index : Nat) (entry : Entry), log.entries[index]? = some entry →
    (index < state.stored ↔ entry.position ≤ joined)
  record : ∃ groupId, asRecord (state.device.groups.lookup conversationId) =
    some ⟨groupId, joined⟩
  epoch : state.device.epoch = log.epochAt state.stored
  cache : ∀ entry ∈ log.entries, joined < entry.position →
    state.device.cache.lookup entry.envelopeId = none
  opened : ∀ entry ∈ log.entries, joined < entry.position → entry.envelope ∉ state.device.opened

def Entry.ShownIn (entry : Entry) (cache : MessageCache) : Prop :=
  ∃ message, cache.lookup entry.envelopeId = some message ∧ message.text = entry.plaintext

/-- The cache shows every message of another sender after the join. -/
def Log.Readable (device : Device) : Prop :=
  ∀ entry ∈ log.entries, entry.IsPeerMessage installationId joined → entry.ShownIn device.cache

end

section

variable {log : Log} {index other : Nat} {entry later : Entry} {entries : List Entry}
  {field : Entry → String}

theorem findIdx_of_nodup (nodup : (entries.map field).Nodup) (h : entries[index]? = some entry) :
    (entries.findIdx fun other => field other == field entry) = index := by
  obtain ⟨hbound, hentry⟩ := List.getElem?_eq_some_iff.mp h
  rw [List.findIdx_eq hbound]
  refine ⟨by rw [hentry]; exact beq_self_eq_true _, fun other hother => ?_⟩
  rw [beq_eq_false_iff_ne]
  intro hsame
  have hmap : (entries.map field)[other]? = (entries.map field)[index]? := by
    rw [List.getElem?_map, List.getElem?_map, h, List.getElem?_eq_getElem (by omega)]
    exact congrArg some hsame
  have heq := (List.getElem?_inj (by rw [List.length_map]; omega) nodup).mp hmap
  omega

theorem find?_of_nodup (nodup : (entries.map field).Nodup) (h : entries[index]? = some entry) :
    (entries.find? fun other => field other == field entry) = some entry := by
  rw [List.find?_eq_getElem?_findIdx, findIdx_of_nodup nodup h]
  exact h

theorem Log.position_lt (hindex : log.entries[index]? = some entry)
    (hother : log.entries[other]? = some later) (hlt : index < other) :
    entry.position < later.position := by
  obtain ⟨hbound, rfl⟩ := List.getElem?_eq_some_iff.mp hindex
  obtain ⟨hbound', rfl⟩ := List.getElem?_eq_some_iff.mp hother
  exact List.pairwise_iff_getElem.mp log.positions index other hbound hbound' hlt

theorem Log.epochAt_succ (h : log.entries[index]? = some entry) :
    log.epochAt (index + 1) = log.epochAt index + if entry.isCommit then 1 else 0 := by
  unfold Log.epochAt
  rw [List.take_add_one, h, List.countP_append]
  cases hcommit : entry.isCommit <;> simp [hcommit]

theorem Log.epochAt_mono (h : index ≤ other) : log.epochAt index ≤ log.epochAt other :=
  (List.take_sublist_take_left h).countP_le

theorem Log.epochAt_eq (h : index ≤ other)
    (none : ∀ (i : Nat) (between : Entry), index ≤ i → i < other →
      log.entries[i]? = some between → between.isCommit = false) :
    log.epochAt index = log.epochAt other := by
  induction h with
  | refl => rfl
  | @step reached hreached ih =>
    rw [ih fun i between hi hlt => none i between hi (by omega)]
    cases hentry : log.entries[reached]? with
    | none =>
      unfold Log.epochAt
      rw [List.take_add_one, hentry, Option.toList_none, List.append_nil]
    | some entry =>
      rw [Log.epochAt_succ hentry, none reached entry hreached (by omega) hentry]
      rfl

end

section

variable (log : Log) (installationId : Option String) (joined : Nat) {other : Entry} {text : String}
  {opened : List String} {listed : Nat}

/-- The group has merged the Commits before an index: those up to the processed position and the
device's own. A cached text is the plaintext, or it was too late to open the message. -/
structure Follows (stored processed merged : Nat) (device : Device) : Prop where
  merged_le : merged ≤ stored
  epoch : device.epoch = log.epochAt merged
  covered : ∀ (index : Nat) (entry : Entry), index < merged → log.entries[index]? = some entry →
    entry.isCommit → entry.position ≤ processed ∨ entry.senderInstallationId = installationId
  ahead : ∀ (index : Nat) (entry : Entry), merged ≤ index → log.entries[index]? = some entry →
    entry.isCommit → processed < entry.position ∧
      (index < stored → entry.senderInstallationId ≠ installationId)
  texts : ∀ (index : Nat) (entry : Entry) (message : CachedMessage),
    log.entries[index]? = some entry → entry.IsPeerMessage installationId joined →
      device.cache.lookup entry.envelopeId = some message →
        message.text = entry.plaintext ∨
          message.text = "" ∧ log.epochAt index < device.epoch
  opened : ∀ (index : Nat) (entry : Entry), log.entries[index]? = some entry →
    entry.IsPeerMessage installationId joined → entry.envelope ∈ device.opened →
      (device.cache.lookup entry.envelopeId).isSome

/-- A message that is not shown and cannot be opened any more. -/
def Lost (index : Nat) (entry : Entry) (device : Device) : Prop :=
  log.entries[index]? = some entry ∧ entry.IsPeerMessage installationId joined ∧
    entry.plaintext ≠ "" ∧ log.epochAt index < device.epoch ∧ ¬ entry.ShownIn device.cache

def LosesSome (device : Device) : Prop :=
  ∃ index entry, Lost log installationId joined index entry device

variable (conversationId groupId : String) (fetches : String → Fetch)

/-- Where a call is when it comes to an index of the log. -/
structure Midway (stored index processed merged : Nat) (cache : MessageCache) (skipped : Bool)
    (device : Device) : Prop where
  follows : Follows log installationId joined stored processed merged device
  record : asRecord (device.groups.lookup conversationId) = some ⟨groupId, processed⟩
  agrees : ∀ entry ∈ log.entries, entry.IsPeerMessage installationId joined →
    cache.lookup entry.envelopeId = device.cache.lookup entry.envelopeId
  handled : ∀ (earlier : Nat) (entry : Entry), earlier < index →
    log.entries[earlier]? = some entry → entry.isCommit → entry.position ≤ processed
  skips : skipped = true ↔ ∃ earlier entry, earlier < index ∧
    log.entries[earlier]? = some entry ∧ entry.IsUnread installationId joined device.cache
  complete : (∀ envelopeId, fetches envelopeId = .answered) → ∀ (earlier : Nat) (entry : Entry),
    earlier < index → log.entries[earlier]? = some entry →
      entry.IsPeerMessage installationId joined →
        (device.cache.lookup entry.envelopeId).isSome

variable {log installationId joined conversationId groupId fetches}
variable {stored index processed merged : Nat} {cache : MessageCache} {skipped : Bool}
  {device : Device} {entry : Entry}

section

variable (h : Midway log installationId joined conversationId groupId fetches stored index processed
  merged cache skipped device)
include h

theorem Midway.next
    (hentry : log.entries[index]? = some entry)
    (commit : entry.isCommit → entry.position ≤ processed)
    (read : (∀ envelopeId, fetches envelopeId = .answered) →
      entry.IsPeerMessage installationId joined →
        (device.cache.lookup entry.envelopeId).isSome) :
    Midway log installationId joined conversationId groupId fetches stored (index + 1) processed
      merged cache (skipped || decide (entry.IsUnread installationId joined device.cache))
      device where
  follows := h.follows
  record := h.record
  agrees := h.agrees
  handled := by
    intro earlier other hlt hother hcommit
    rcases Nat.lt_succ_iff_lt_or_eq.mp hlt with hbefore | rfl
    · exact h.handled earlier other hbefore hother hcommit
    · rw [hentry] at hother
      cases hother
      exact commit hcommit
  skips := by
    rw [Bool.or_eq_true, h.skips, decide_eq_true_iff]
    constructor
    · rintro (⟨earlier, other, hlt, hother, hunread⟩ | hunread)
      · exact ⟨earlier, other, Nat.lt_succ_of_lt hlt, hother, hunread⟩
      · exact ⟨index, entry, Nat.lt_succ_self index, hentry, hunread⟩
    · rintro ⟨earlier, other, hlt, hother, hunread⟩
      rcases Nat.lt_succ_iff_lt_or_eq.mp hlt with hbefore | rfl
      · exact Or.inl ⟨earlier, other, hbefore, hother, hunread⟩
      · rw [hentry] at hother
        cases hother
        exact Or.inr hunread
  complete := by
    intro hall earlier other hlt hother hpeer
    rcases Nat.lt_succ_iff_lt_or_eq.mp hlt with hbefore | rfl
    · exact h.complete hall earlier other hbefore hother hpeer
    · rw [hentry] at hother
      cases hother
      exact read hall hpeer

theorem Midway.pass
    (hentry : log.entries[index]? = some entry)
    (commit : entry.isCommit → entry.position ≤ processed)
    (read : entry.IsPeerMessage installationId joined →
        (device.cache.lookup entry.envelopeId).isSome) :
    Midway log installationId joined conversationId groupId fetches stored (index + 1) processed
      merged cache skipped device := by
  have hread : decide (entry.IsUnread installationId joined device.cache) = false := by
    rw [decide_eq_false_iff_not]
    rintro ⟨hpeer, _, habsent⟩
    have hcached := read hpeer
    rw [habsent] at hcached
    cases hcached
  have hnext := h.next hentry commit fun _ => read
  rwa [hread, Bool.or_false] at hnext

theorem Midway.epochAt_le :
    log.epochAt index ≤ device.epoch := by
  rw [h.follows.epoch]
  rcases Nat.le_total index merged with hle | hle
  · exact Log.epochAt_mono hle
  · refine (Log.epochAt_eq hle fun between entry hge hlt hentry => ?_).ge
    rw [Bool.eq_false_iff]
    intro hcommit
    have hahead := (h.follows.ahead between entry hge hentry hcommit).1
    have hhandled := h.handled between entry hlt hentry hcommit
    omega

theorem Midway.epochAt_eq
    (hentry : log.entries[index]? = some entry) (commit : entry.isCommit)
    (later : processed < entry.position) (peer : entry.senderInstallationId ≠ installationId) :
    merged ≤ index ∧ log.epochAt index = device.epoch := by
  have hle : merged ≤ index := by
    by_contra hlt
    rcases h.follows.covered index entry (by omega) hentry commit with hcovered | hown
    · omega
    · exact peer hown
  refine ⟨hle, Nat.le_antisymm h.epochAt_le ?_⟩
  rw [h.follows.epoch]
  exact Log.epochAt_mono hle

omit h in
theorem entry_eq_of_envelopeId (hentry : entry ∈ log.entries) (hother : other ∈ log.entries)
    (same : entry.envelopeId = other.envelopeId) :
    entry = other :=
  List.inj_on_of_nodup_map log.envelopeIds hentry hother same

omit h in
theorem entry_eq_of_envelope (hentry : entry ∈ log.entries) (hother : other ∈ log.entries)
    (same : entry.envelope = other.envelope) : entry = other :=
  List.inj_on_of_nodup_map log.envelopes hentry hother same

def Device.remembered (device : Device) (conversationId groupId : String) (position : Nat) :
    Device :=
  { device with groups := assign conversationId (.record ⟨groupId, position⟩) device.groups }

theorem Midway.own
    (hentry : log.entries[index]? = some entry) (commit : entry.isCommit)
    (later : processed < entry.position) (own : entry.senderInstallationId = installationId)
    (hstored : index < stored) :
    Midway log installationId joined conversationId groupId fetches stored index entry.position
      merged cache skipped (device.remembered conversationId groupId entry.position) where
  follows := {
    merged_le := h.follows.merged_le
    epoch := h.follows.epoch
    covered := by
      intro earlier other hlt hother hcommit
      rcases h.follows.covered earlier other hlt hother hcommit with hle | hown
      · exact Or.inl (by omega)
      · exact Or.inr hown
    ahead := by
      intro after other hge hother hcommit
      have hmerged : index < merged := by
        by_contra hle
        exact (h.follows.ahead index entry (by omega) hentry commit).2 hstored own
      exact ⟨Log.position_lt hentry hother (by omega),
        (h.follows.ahead after other hge hother hcommit).2⟩
    texts := h.follows.texts
    opened := h.follows.opened }
  record := by
    unfold Device.remembered
    rw [lookup_assign_self]
    rfl
  agrees := h.agrees
  handled := fun earlier other hlt hother hcommit =>
    (h.handled earlier other hlt hother hcommit).trans later.le
  skips := h.skips
  complete := h.complete

theorem Midway.merge
    (hentry : log.entries[index]? = some entry) (commit : entry.isCommit)
    (later : processed < entry.position) (peer : entry.senderInstallationId ≠ installationId)
    (hstored : index < stored) :
    Midway log installationId joined conversationId groupId fetches stored index entry.position
      (index + 1) cache skipped
      ({ device with epoch := device.epoch + 1 }.remembered conversationId groupId
        entry.position) where
  follows := {
    merged_le := hstored
    epoch := by
      rw [Log.epochAt_succ hentry, commit, (h.epochAt_eq hentry commit later peer).2]
      rfl
    covered := by
      intro earlier other hlt hother hcommit
      refine Or.inl ?_
      rcases Nat.lt_succ_iff_lt_or_eq.mp hlt with hbefore | rfl
      · exact (Log.position_lt hother hentry hbefore).le
      · rw [hentry] at hother
        cases hother
        exact le_rfl
    ahead := by
      intro after other hge hother hcommit
      have hmerged := (h.epochAt_eq hentry commit later peer).1
      exact ⟨Log.position_lt hentry hother hge,
        (h.follows.ahead after other (by omega) hother hcommit).2⟩
    texts := by
      intro place other message hother hpeer hmessage
      rcases h.follows.texts place other message hother hpeer hmessage with htext | ⟨htext, hlt⟩
      · exact Or.inl htext
      · exact Or.inr ⟨htext, Nat.lt_succ_of_lt hlt⟩
    opened := h.follows.opened }
  record := by
    unfold Device.remembered
    rw [lookup_assign_self]
    rfl
  agrees := h.agrees
  handled := fun earlier other hlt hother hcommit =>
    (h.handled earlier other hlt hother hcommit).trans later.le
  skips := h.skips
  complete := h.complete

omit h in
theorem losesSome_commit (after : Device)
    (follows : Follows log installationId joined stored processed merged device)
    (hentry : log.entries[index]? = some entry) (commit : entry.isCommit)
    (hepoch : log.epochAt index = device.epoch) (hafter : after.epoch = device.epoch + 1)
    (hcache : after.cache = device.cache) :
    LosesSome log installationId joined after ↔
      LosesSome log installationId joined device ∨ ∃ earlier other, earlier < index ∧
        log.entries[earlier]? = some other ∧
          other.IsUnread installationId joined device.cache := by
  constructor
  · rintro ⟨lost, other, hother, hpeer, htext, hlt, hshown⟩
    rw [hafter] at hlt
    rw [hcache] at hshown
    cases hcached : device.cache.lookup other.envelopeId with
    | some message =>
      rcases follows.texts lost other message hother hpeer hcached with hsame | ⟨_, hpast⟩
      · exact absurd ⟨message, hcached, hsame⟩ hshown
      · exact Or.inl ⟨lost, other, hother, hpeer, htext, hpast, hshown⟩
    | none =>
      have hbefore : lost < index := by
        by_contra hge
        rcases Nat.eq_or_lt_of_le (Nat.le_of_not_lt hge) with rfl | hgt
        · rw [hentry] at hother
          cases hother
          exact nomatch (of_decide_eq_true commit).symm.trans hpeer.1
        · have hmono : log.epochAt (index + 1) ≤ log.epochAt lost := Log.epochAt_mono hgt
          rw [ Log.epochAt_succ hentry, commit] at hmono
          simp only [if_true] at hmono
          omega
      exact Or.inr ⟨lost, other, hbefore, hother, hpeer, htext, hcached⟩
  · rintro (⟨lost, other, hother, hpeer, htext, hlt, hshown⟩ |
      ⟨earlier, other, hlt, hother, hpeer, htext, habsent⟩)
    · refine ⟨lost, other, hother, hpeer, htext, ?_, ?_⟩
      · rw [hafter]
        omega
      · rwa [hcache]
    · refine ⟨earlier, other, hother, hpeer, htext, ?_, ?_⟩
      · have hmono : log.epochAt earlier ≤ log.epochAt index := Log.epochAt_mono hlt.le
        rw [hafter]
        omega
      · rintro ⟨message, hmessage, _⟩
        rw [hcache, habsent] at hmessage
        cases hmessage

theorem Midway.merge_loses
    (hentry : log.entries[index]? = some entry) (commit : entry.isCommit)
    (later : processed < entry.position) (peer : entry.senderInstallationId ≠ installationId) :
    LosesSome log installationId joined
        ({ device with epoch := device.epoch + 1 }.remembered conversationId groupId
          entry.position) ↔
      LosesSome log installationId joined device ∨ skipped = true := by
  rw [h.skips]
  exact losesSome_commit _ h.follows hentry commit (h.epochAt_eq hentry commit later peer).2 rfl rfl

theorem Midway.ownMessage
    (hentry : log.entries[index]? = some entry)
    (own : entry.senderInstallationId = installationId) (message : CachedMessage) :
    Midway log installationId joined conversationId groupId fetches stored index processed merged
      (assign entry.envelopeId message cache) skipped device where
  follows := h.follows
  record := h.record
  agrees := by
    intro other hother hpeer
    have hne : other.envelopeId ≠ entry.envelopeId := by
      intro hsame
      obtain rfl := entry_eq_of_envelopeId hother (List.mem_of_getElem? hentry) hsame
      exact hpeer.2.1 own
    rw [lookup_assign_of_ne hne]
    exact h.agrees other hother hpeer
  handled := h.handled
  skips := h.skips
  complete := h.complete

structure Written (log : Log) (installationId : Option String) (joined index : Nat)
    (entry : Entry) (device : Device) (text : String) (opened : List String) : Prop where
  text : entry.IsPeerMessage installationId joined →
    text = entry.plaintext ∧ log.epochAt index = device.epoch ∨
      text = "" ∧ log.epochAt index < device.epoch
  opened : ∀ envelope ∈ opened, envelope = entry.envelope ∨ envelope ∈ device.opened

def Device.wrote (device : Device) (cache : MessageCache) (opened : List String) : Device :=
  { device with cache := cache, opened := opened }

theorem Midway.lookup_write
    (hentry : log.entries[index]? = some entry)
    (hother : other ∈ log.entries) (hpeer : other.IsPeerMessage installationId joined) :
    (assign entry.envelopeId ⟨text, false, entry.position⟩ cache).lookup other.envelopeId =
      if other = entry then some ⟨text, false, entry.position⟩
      else device.cache.lookup other.envelopeId := by
  split_ifs with hsame
  · rw [hsame, lookup_assign_self]
  · have hne : other.envelopeId ≠ entry.envelopeId := fun hid =>
      hsame (entry_eq_of_envelopeId hother (List.mem_of_getElem? hentry) hid)
    rw [lookup_assign_of_ne hne, h.agrees other hother hpeer]

omit h in
theorem Log.index_eq {other : Nat} (hentry : log.entries[index]? = some entry)
    (hother : log.entries[other]? = some entry) : other = index := by
  rcases Nat.lt_trichotomy other index with hlt | heq | hgt
  · exact absurd (Log.position_lt hother hentry hlt) (lt_irrefl _)
  · exact heq
  · exact absurd (Log.position_lt hentry hother hgt) (lt_irrefl _)

theorem Midway.write
    (hentry : log.entries[index]? = some entry)
    (written : Written log installationId joined index entry device text opened) :
    Midway log installationId joined conversationId groupId fetches stored index processed merged
      (assign entry.envelopeId ⟨text, false, entry.position⟩ cache) skipped
      (device.wrote (assign entry.envelopeId ⟨text, false, entry.position⟩ cache) opened) where
  follows := {
    merged_le := h.follows.merged_le
    epoch := h.follows.epoch
    covered := h.follows.covered
    ahead := h.follows.ahead
    texts := by
      intro place other message hother hpeer hmessage
      change List.lookup other.envelopeId (assign _ _ cache) = some message at hmessage
      rw [h.lookup_write hentry (List.mem_of_getElem? hother) hpeer] at hmessage
      split_ifs at hmessage with hsame
      · cases hmessage
        subst hsame
        obtain rfl := Log.index_eq hentry hother
        exact (written.text hpeer).imp_left And.left
      · exact h.follows.texts place other message hother hpeer hmessage
    opened := by
      intro place other hother hpeer hopened
      change (List.lookup other.envelopeId (assign _ _ cache)).isSome
      rw [h.lookup_write hentry (List.mem_of_getElem? hother) hpeer]
      split_ifs with hsame
      · rfl
      · rcases written.opened other.envelope hopened with hnow | hbefore
        · exact absurd (entry_eq_of_envelope (List.mem_of_getElem? hother)
            (List.mem_of_getElem? hentry) hnow) hsame
        · exact h.follows.opened place other hother hpeer hbefore }
  record := h.record
  agrees := fun _ _ _ => rfl
  handled := h.handled
  skips := by
    rw [h.skips]
    refine exists_congr fun earlier => exists_congr fun other =>
      and_congr_right fun hlt => and_congr_right fun hother => and_congr_right fun hpeer =>
        and_congr_right fun _ => ?_
    have hne : other ≠ entry := by
      rintro rfl
      exact absurd (Log.index_eq hentry hother) hlt.ne
    change _ ↔ List.lookup other.envelopeId (assign _ _ cache) = none
    rw [h.lookup_write hentry (List.mem_of_getElem? hother) hpeer, if_neg hne]
  complete := by
    intro hall earlier other hlt hother hpeer
    change (List.lookup other.envelopeId (assign _ _ cache)).isSome
    rw [h.lookup_write hentry (List.mem_of_getElem? hother) hpeer]
    split_ifs with hsame
    · rfl
    · exact h.complete hall earlier other hlt hother hpeer

theorem Midway.write_loses
    (hentry : log.entries[index]? = some entry)
    (absent : cache.lookup entry.envelopeId = none)
    (written : Written log installationId joined index entry device text opened) :
    LosesSome log installationId joined
        (device.wrote (assign entry.envelopeId ⟨text, false, entry.position⟩ cache) opened) ↔
      LosesSome log installationId joined device := by
  refine exists_congr fun place => exists_congr fun other => and_congr_right fun hother =>
    and_congr_right fun hpeer => and_congr_right fun htext => and_congr_right fun hlt => ?_
  change log.epochAt place < device.epoch at hlt
  rw [not_iff_not]
  change (∃ message, List.lookup other.envelopeId (assign _ _ cache) = some message ∧ _) ↔ _
  rw [h.lookup_write hentry (List.mem_of_getElem? hother) hpeer]
  split_ifs with hsame
  · subst hsame
    obtain rfl := Log.index_eq hentry hother
    constructor
    · rintro ⟨message, hmessage, hshown⟩
      cases hmessage
      rcases written.text hpeer with ⟨_, hepoch⟩ | ⟨hempty, _⟩
      · omega
      · exact absurd (hshown.symm.trans hempty) htext
    · rintro ⟨message, hmessage, _⟩
      rw [← h.agrees other (List.mem_of_getElem? hother) hpeer, absent] at hmessage
      cases hmessage
  · exact Iff.rfl

theorem Midway.opens
    (hentry : log.entries[index]? = some entry) (absent : cache.lookup entry.envelopeId = none) :
    ∃ opened, (log.answer (.openMlsApplication groupId entry.envelope) fetches device).2 =
        { device with opened := opened } ∧
      Written log installationId joined index entry device
        ((log.answer (.openMlsApplication groupId entry.envelope) fetches device).1.getD "")
        opened := by
  unfold Log.answer
  dsimp only
  rw [find?_of_nodup log.envelopes hentry, findIdx_of_nodup log.envelopes hentry]
  dsimp only
  split_ifs with hopens
  · refine ⟨_, rfl, fun _ => Or.inl ⟨rfl, hopens.1⟩, fun envelope henvelope => ?_⟩
    exact List.mem_cons.mp henvelope
  · refine ⟨device.opened, rfl, fun hpeer => Or.inr ⟨rfl, ?_⟩, fun _ => Or.inr⟩
    refine lt_of_le_of_ne h.epochAt_le fun hepoch => hopens ⟨hepoch, fun hopened => ?_⟩
    have hcached := h.follows.opened index entry hentry hpeer hopened
    rw [← h.agrees entry (List.mem_of_getElem? hentry) hpeer, absent] at hcached
    cases hcached

end

variable (log installationId joined conversationId groupId fetches stored) in
/-- What a call that lists the first entries comes to. -/
structure Polled (listed : Nat) (kept : Bool) (device after : Device) : Prop where
  follows : ∃ processed merged, Follows log installationId joined stored processed merged after ∧
    asRecord (after.groups.lookup conversationId) = some ⟨groupId, processed⟩
  loses : LosesSome log installationId joined after ↔
    LosesSome log installationId joined device ∨ kept = false
  complete : (∀ envelopeId, fetches envelopeId = .answered) → ∀ (index : Nat) (entry : Entry),
    index < listed → log.entries[index]? = some entry →
      entry.IsPeerMessage installationId joined →
        (after.cache.lookup entry.envelopeId).isSome

theorem Midway.polled
    (h : Midway log installationId joined conversationId groupId fetches stored index processed
      merged cache skipped device) (ends : (∀ envelopeId, fetches envelopeId = .answered) →
      (log.entries.take listed).length ≤ index) :
    Polled log installationId joined conversationId groupId fetches stored listed true device
      device where
  follows := ⟨processed, merged, h.follows, h.record⟩
  loses := by simp only [Bool.true_eq_false, or_false]
  complete := by
    intro hall place other hlt hother
    have hends := ends hall
    have hbound := (List.getElem?_eq_some_iff.mp hother).1
    rw [List.length_take] at hends
    exact h.complete hall place other (by omega) hother

theorem fetched_answered (hentry : log.entries[index]? = some entry) :
    log.fetched entry.envelopeId .answered =
      .accepted ⟨entry.envelope, entry.senderInstallationId⟩ := by
  unfold Log.fetched
  dsimp only
  rw [find?_of_nodup log.envelopeIds hentry]

theorem entry_of_drop {rest : List Entry}
    (hrest : (log.entries.take listed).drop index = entry :: rest) :
    index < listed ∧ log.entries[index]? = some entry ∧
      (log.entries.take listed).drop (index + 1) = rest := by
  have hbound : index < (log.entries.take listed).length := by
    by_contra hge
    rw [List.drop_eq_nil_of_le (by omega)] at hrest
    cases hrest
  rw [List.drop_eq_getElem_cons hbound] at hrest
  obtain ⟨hget, htail⟩ := List.cons.inj hrest
  have hlisted : index < listed := by
    rw [List.length_take] at hbound
    omega
  refine ⟨hlisted, ?_, htail⟩
  rw [← List.getElem?_take_of_lt hlisted, List.getElem?_eq_getElem hbound, hget]

theorem envelopeId_ne_of_later {other : Entry} (hentry : log.entries[index]? = some entry)
    (hother : other ∈ (log.entries.take listed).drop (index + 1)) :
    other.envelopeId ≠ entry.envelopeId := by
  obtain ⟨after, hafter, rfl⟩ := List.mem_iff_getElem.mp hother
  have hplace : log.entries[index + 1 + after]? =
      some ((List.drop (index + 1) (log.entries.take listed))[after]) := by
    rw [List.getElem_drop, List.getElem_take, List.getElem?_eq_getElem]
  intro hsame
  have heq := entry_eq_of_envelopeId (List.mem_of_getElem? hplace)
    (List.mem_of_getElem? hentry) hsame
  rw [heq] at hplace
  have := Log.index_eq hentry hplace
  omega

variable {noted : MessageCache} {rest : List Entry}

variable (log installationId joined conversationId groupId fetches stored) in
/-- Decrypting the rest of what was listed comes to what a call comes to. -/
def Decrypts (listed : Nat) (noted : MessageCache) (rest : List Entry) (processed : Nat)
    (cache : MessageCache) (skipped : Bool) (device : Device) : Prop :=
  Polled log installationId joined conversationId groupId fetches stored listed
    (keepsUnread installationId joined fetches noted skipped processed rest) device
    (solo log.answer (decryptEvents conversationId groupId installationId
      (rest.map Entry.event) processed cache) (fun _ => fetches) device).2

variable (log installationId joined conversationId groupId fetches stored) in
/-- It does so from any point where these entries are left and no later one is cached. -/
def DecryptsFrom (listed : Nat) (noted : MessageCache) (index : Nat) (rest : List Entry) : Prop :=
  ∀ {processed merged : Nat} {cache : MessageCache} {skipped : Bool} {device : Device},
    Midway log installationId joined conversationId groupId fetches stored index processed merged
      cache skipped device →
    (∀ entry ∈ rest, cache.lookup entry.envelopeId = noted.lookup entry.envelopeId) →
    Decrypts log installationId joined conversationId groupId fetches stored listed noted rest
      processed cache skipped device

section

variable (ih : DecryptsFrom log installationId joined conversationId groupId fetches stored listed
    noted (index + 1) rest)
  (h : Midway log installationId joined conversationId groupId fetches stored index processed
    merged cache skipped device)
  (hentry : log.entries[index]? = some entry)
include ih h hentry

theorem decrypts_commit (hclass : entry.envelopeClass = .mlsCommit) (hstored : index < stored)
    (hnoted : ∀ other ∈ rest, cache.lookup other.envelopeId = noted.lookup other.envelopeId) :
    Decrypts log installationId joined conversationId groupId fetches stored listed noted
      (entry :: rest) processed cache skipped device := by
  have hcommit : entry.isCommit = true := decide_eq_true hclass
  have hmessage (message : entry.IsPeerMessage installationId joined) :
      (device.cache.lookup entry.envelopeId).isSome :=
    nomatch hclass.symm.trans message.1
  unfold Decrypts keepsUnread decryptEvents
  rw [List.map_cons]
  dsimp only [Entry.event]
  rw [hclass]
  dsimp only
  split_ifs with hprocessed
  · exact ih (h.pass hentry (fun _ => hprocessed) hmessage) hnoted
  have hlater : processed < entry.position := by omega
  unfold fetchEnvelope
  rw [await_bind, solo_await]
  dsimp only [Log.answer]
  cases hfetch : fetches entry.envelopeId with
  | unreachable => exact h.polled fun hall => nomatch hfetch.symm.trans (hall _)
  | refused => exact h.polled fun hall => nomatch hfetch.symm.trans (hall _)
  | answered =>
    rw [fetched_answered hentry]
    dsimp only [okBody, pure_eq, done_bind]
    split_ifs with hown
    · have hmid := (h.own hentry hcommit hlater hown hstored).pass hentry
        (fun _ => le_rfl) hmessage
      have hpolled := ih hmid hnoted
      rw [decide_eq_true hown, Bool.true_or, Bool.true_and]
      exact ⟨hpolled.follows, hpolled.loses, hpolled.complete⟩
    · have hepoch := (h.epochAt_eq hentry hcommit hlater hown).2
      have hmid := (h.merge hentry hcommit hlater hown hstored).pass hentry
        (fun _ => le_rfl) hmessage
      have hpolled := ih hmid hnoted
      unfold processMlsCommit
      rw [await_bind, solo_await]
      dsimp only [Log.answer]
      rw [findIdx_of_nodup log.envelopes hentry, if_pos hepoch]
      refine ⟨hpolled.follows, hpolled.loses.trans ?_, hpolled.complete⟩
      rw [h.merge_loses hentry hcommit hlater hown, decide_eq_false hown,
        Bool.false_or, Bool.and_eq_false_iff, Bool.not_eq_false', or_assoc]

theorem decrypts_application (hclass : entry.envelopeClass = .application)
    (hnow : cache.lookup entry.envelopeId = noted.lookup entry.envelopeId)
    (hnoted : ∀ other ∈ rest, cache.lookup other.envelopeId = noted.lookup other.envelopeId)
    (hlater : ∀ other ∈ rest, other.envelopeId ≠ entry.envelopeId) :
    Decrypts log installationId joined conversationId groupId fetches stored listed noted
      (entry :: rest) processed cache skipped device := by
  have hcommit (commit : entry.isCommit = true) : entry.position ≤ processed :=
    nomatch hclass.symm.trans (of_decide_eq_true commit)
  have hpast (message : CachedMessage) (other : Entry) (hother : other ∈ rest) :
      (assign entry.envelopeId message cache).lookup other.envelopeId =
        noted.lookup other.envelopeId := by
    rw [lookup_assign_of_ne (hlater other hother)]
    exact hnoted other hother
  unfold Decrypts keepsUnread decryptEvents
  rw [List.map_cons]
  dsimp only [Entry.event]
  rw [hclass]
  dsimp only
  rw [← hnow]
  split_ifs with hcached
  · refine ih (h.pass hentry hcommit fun hpeer => ?_) hnoted
    rwa [← h.agrees entry (List.mem_of_getElem? hentry) hpeer]
  have habsent : cache.lookup entry.envelopeId = none :=
    Option.not_isSome_iff_eq_none.mp hcached
  unfold fetchEnvelope
  rw [await_bind, solo_await]
  dsimp only [Log.answer]
  cases hfetch : fetches entry.envelopeId with
  | unreachable => exact h.polled fun hall => nomatch hfetch.symm.trans (hall _)
  | refused =>
    have hunread : (entry.IsUnread installationId joined noted) ↔
        entry.IsUnread installationId joined device.cache := by
      refine and_congr_right fun hpeer => and_congr_right fun _ => ?_
      rw [← hnow, h.agrees entry (List.mem_of_getElem? hentry) hpeer]
    have hmid := h.next hentry hcommit fun hall => nomatch hfetch.symm.trans (hall _)
    rw [← decide_eq_decide.mpr hunread] at hmid
    exact ih hmid hnoted
  | answered =>
    rw [fetched_answered hentry]
    dsimp only [okBody, pure_eq, done_bind]
    split_ifs with hown
    · have hmid := (h.ownMessage hentry hown ⟨"", true, entry.position⟩).pass hentry
        hcommit fun hpeer => absurd hown hpeer.2.1
      exact ih hmid (hpast _)
    · obtain ⟨opened, hdevice, hwritten⟩ := h.opens hentry habsent
      have hmid := (h.write hentry hwritten).pass hentry hcommit fun _ => by
        change (List.lookup entry.envelopeId (assign entry.envelopeId _ cache)).isSome
        rw [lookup_assign_self]
        rfl
      have hpolled := ih hmid (hpast _)
      unfold openMlsApplication
      rw [await_bind, solo_await]
      rw [hdevice]
      refine ⟨hpolled.follows, hpolled.loses.trans ?_, hpolled.complete⟩
      rw [h.write_loses hentry habsent hwritten]

end

theorem decryptEvents_polled (hrest : (log.entries.take listed).drop index = rest)
    (hlisted : listed ≤ stored) :
    DecryptsFrom log installationId joined conversationId groupId fetches stored listed noted index
      rest := by
  induction rest generalizing index with
  | nil => exact fun h _ => h.polled fun _ => List.drop_eq_nil_iff.mp hrest
  | cons entry rest ih =>
    intro processed merged cache skipped device h hnoted
    obtain ⟨hindex, hentry, htail⟩ := entry_of_drop hrest
    have hnotedTail := fun other hother => hnoted other (List.mem_cons_of_mem _ hother)
    cases hclass : entry.envelopeClass with
    | externalProposal =>
      unfold Decrypts keepsUnread decryptEvents
      rw [List.map_cons]
      dsimp only [Entry.event]
      rw [hclass]
      exact ih htail (h.pass hentry (fun hcommit => nomatch hclass.symm.trans
        (of_decide_eq_true hcommit)) fun hpeer => nomatch hclass.symm.trans hpeer.1) hnotedTail
    | mlsCommit =>
      exact decrypts_commit (ih htail) h hentry hclass (hindex.trans_le hlisted) hnotedTail
    | application =>
      exact decrypts_application (ih htail) h hentry hclass (hnoted entry List.mem_cons_self)
        hnotedTail fun other hother => envelopeId_ne_of_later hentry (htail ▸ hother)

end

section

variable {log : Log} {conversationId : String} {installationId : Option String} {joined : Nat}
  {device : Device} {listed : Nat} {fetches : String → Fetch} {state : State} {entry : Entry}

variable (log conversationId installationId joined) in
structure State.Sound (state : State) : Prop where
  follows : ∃ groupId processed merged,
    Follows log installationId joined state.stored processed merged state.device ∧
      asRecord (state.device.groups.lookup conversationId) = some ⟨groupId, processed⟩

theorem poll_eq {record : GroupRecord}
    (h : asRecord (device.groups.lookup conversationId) = some record) :
    log.poll conversationId installationId listed fetches device =
      (solo log.answer (decryptEvents conversationId record.groupId installationId
        ((log.entries.take listed).map Entry.event) record.processedPosition device.cache)
        (fun _ => fetches) device).2 := by
  unfold Log.poll decryptedMessages groupRecordFor readGroupMap readMessageCache
  rw [await_bind, await_bind, solo_await]
  dsimp only [Log.answer, pure_eq, done_bind]
  rw [await_bind, solo_await]
  dsimp only [Log.answer, pure_eq, done_bind]
  rw [h]

theorem State.Sound.polled (sound : state.Sound log conversationId installationId joined)
    (fetches : String → Fetch) (hlisted : listed ≤ state.stored) :
    ∃ groupId processed,
      asRecord (state.device.groups.lookup conversationId) = some ⟨groupId, processed⟩ ∧
      Polled log installationId joined conversationId groupId fetches state.stored listed
        (keepsUnread installationId joined fetches state.device.cache false processed
          (log.entries.take listed)) state.device
        (log.poll conversationId installationId listed fetches state.device) := by
  obtain ⟨groupId, processed, merged, hfollows, hrecord⟩ := sound.follows
  have hstart : Midway log installationId joined conversationId groupId fetches state.stored 0
      processed merged state.device.cache false state.device := {
    follows := hfollows
    record := hrecord
    agrees := fun _ _ _ => rfl
    handled := nofun
    skips := ⟨nofun, fun ⟨_, _, hlt, _⟩ => nomatch hlt⟩
    complete := nofun }
  refine ⟨groupId, processed, hrecord, ?_⟩
  rw [poll_eq hrecord]
  exact decryptEvents_polled rfl hlisted hstart fun _ _ => rfl

/-- The device's own Commit is of the epoch of the log, and of no epoch that is merged. -/
theorem Follows.committed {stored processed merged : Nat} {groupId : String} (answered : Bool)
    (h : Follows log installationId joined stored processed merged device)
    (record : asRecord (device.groups.lookup conversationId) = some ⟨groupId, processed⟩)
    (hentry : log.entries[stored]? = some entry) (commit : entry.isCommit)
    (own : entry.senderInstallationId = installationId)
    (hepoch : device.epoch = log.epochAt stored) :
    ∃ reached, Follows log installationId joined (stored + 1) reached (stored + 1)
        (device.committed conversationId answered entry.position) ∧
      asRecord ((device.committed conversationId answered entry.position).groups.lookup
        conversationId) = some ⟨groupId, reached⟩ := by
  have hsucc : log.epochAt (stored + 1) = log.epochAt stored + 1 := by
    rw [Log.epochAt_succ hentry, commit]
    rfl
  -- Every Commit that is stored is merged.
  have hmerged {index : Nat} {other : Entry} (hlt : index < stored)
      (hother : log.entries[index]? = some other) (hcommit : other.isCommit) : index < merged := by
    by_contra hge
    have hnext : log.epochAt (index + 1) = log.epochAt index + 1 := by
      rw [Log.epochAt_succ hother, hcommit]
      rfl
    have hlow : log.epochAt merged ≤ log.epochAt index := Log.epochAt_mono (by omega)
    have hhigh : log.epochAt (index + 1) ≤ log.epochAt stored := Log.epochAt_mono hlt
    have hsame := h.epoch
    omega
  have hahead := h.ahead stored entry h.merged_le hentry commit
  obtain ⟨reached, hrecord, hlow, hhigh⟩ : ∃ reached,
      asRecord ((device.committed conversationId answered entry.position).groups.lookup
        conversationId) = some ⟨groupId, reached⟩ ∧ processed ≤ reached ∧
          reached ≤ entry.position := by
    unfold Device.committed
    dsimp only
    rw [record]
    cases answered with
    | true =>
      refine ⟨entry.position, ?_, hahead.1.le, le_rfl⟩
      dsimp only
      rw [lookup_assign_self]
      rfl
    | false => exact ⟨processed, record, le_rfl, hahead.1.le⟩
  refine ⟨reached, ?_, hrecord⟩
  exact {
    merged_le := le_rfl
    epoch := by
      rw [hsucc, ← hepoch]
      rfl
    covered := by
      intro index other hlt hother hcommit
      rcases Nat.lt_succ_iff_lt_or_eq.mp hlt with hbefore | rfl
      · rcases h.covered index other (hmerged hbefore hother hcommit) hother hcommit with hle | hown
        · exact Or.inl (by omega)
        · exact Or.inr hown
      · rw [hentry] at hother
        cases hother
        exact Or.inr own
    ahead := by
      intro index other hge hother hcommit
      exact ⟨lt_of_le_of_lt hhigh (Log.position_lt hentry hother hge), fun hlt => by omega⟩
    texts := by
      intro index other message hother hpeer hmessage
      rcases h.texts index other message hother hpeer hmessage with htext | ⟨htext, hlt⟩
      · exact Or.inl htext
      · exact Or.inr ⟨htext, Nat.lt_succ_of_lt hlt⟩
    opened := h.opened }

theorem Follows.stored {stored processed merged : Nat}
    (h : Follows log installationId joined stored processed merged device)
    (hentry : log.entries[stored]? = some entry)
    (other : ¬ (entry.isCommit ∧ entry.senderInstallationId = installationId)) :
    Follows log installationId joined (stored + 1) processed merged device where
  merged_le := Nat.le_succ_of_le h.merged_le
  epoch := h.epoch
  covered := h.covered
  ahead := by
    intro index later hge hlater hcommit
    obtain ⟨hlt, hpeer⟩ := h.ahead index later hge hlater hcommit
    refine ⟨hlt, fun hbound => ?_⟩
    rcases Nat.lt_succ_iff_lt_or_eq.mp hbound with hbefore | rfl
    · exact hpeer hbefore
    · rw [hentry] at hlater
      cases hlater
      exact fun hown => other ⟨hcommit, hown⟩
  texts := h.texts
  opened := h.opened

theorem takeStep_loses {event : Step} {next : State}
    (sound : state.Sound log conversationId installationId joined)
    (h : takeStep log conversationId installationId event state = some next) :
    next.Sound log conversationId installationId joined ∧
      (LosesSome log installationId joined next.device ↔
        LosesSome log installationId joined state.device ∨
          ¬ Keeps installationId joined log conversationId event state) := by
  cases event with
  | store answered =>
    obtain ⟨groupId, processed, merged, hfollows, hrecord⟩ := sound.follows
    unfold takeStep at h
    dsimp only at h
    split at h
    · cases h
    next entry hentry =>
    split_ifs at h with hown hepoch
    · cases h
      obtain ⟨reached, hreached, hrecorded⟩ := hfollows.committed answered hrecord
        hentry hown.1 hown.2 hepoch
      refine ⟨⟨groupId, reached, _, hreached, hrecorded⟩,
        (losesSome_commit (state.device.committed conversationId answered entry.position) hfollows
          hentry hown.1 hepoch.symm rfl rfl).trans (or_congr_right ?_)⟩
      constructor
      · rintro ⟨earlier, other, hlt, hother, hunread⟩ hkeeps
        refine hkeeps entry hentry hown.1 hown.2 other ?_ hunread
        rw [← List.getElem?_take_of_lt hlt] at hother
        exact List.mem_of_getElem? hother
      · intro hbroken
        by_contra hnone
        refine hbroken fun _ _ _ _ other hmem hunread => hnone ?_
        obtain ⟨earlier, hlt, hother⟩ := List.mem_take_iff_getElem.mp hmem
        exact ⟨earlier, other, by omega, List.getElem?_eq_some_iff.mpr ⟨by omega, hother⟩, hunread⟩
    · cases h
      refine ⟨⟨groupId, processed, merged, hfollows.stored hentry hown, hrecord⟩, ?_⟩
      have hkeeps : Keeps installationId joined log conversationId (.store answered) state := by
        intro other hother hcommit hsender
        rw [hentry] at hother
        cases hother
        exact absurd ⟨hcommit, hsender⟩ hown
      simp only [hkeeps, not_true_eq_false, or_false]
  | poll listed fetches =>
    unfold takeStep at h
    dsimp only at h
    split_ifs at h with hlisted
    cases h
    obtain ⟨groupId, processed, hrecord, hpolled⟩ := sound.polled fetches hlisted
    obtain ⟨reached, merged, hfollows, hrecorded⟩ := hpolled.follows
    refine ⟨⟨groupId, reached, merged, hfollows, hrecorded⟩, hpolled.loses.trans ?_⟩
    refine or_congr_right ?_
    unfold Keeps
    dsimp only
    rw [hrecord]
    simp

theorem run_loses {steps : List Step} {final : State}
    (sound : state.Sound log conversationId installationId joined)
    (h : run (takeStep log conversationId installationId) steps state = some final) :
    final.Sound log conversationId installationId joined ∧
      (LosesSome log installationId joined final.device ↔
        LosesSome log installationId joined state.device ∨
          ¬ Guarded (takeStep log conversationId installationId)
            (Keeps installationId joined log conversationId) steps state) := by
  induction steps generalizing state with
  | nil =>
    cases h
    exact ⟨sound, by simp only [Guarded, not_true_eq_false, or_false]⟩
  | cons event steps ih =>
    obtain ⟨next, hnext, hrun⟩ := run_cons h
    obtain ⟨hsound, hstep⟩ := takeStep_loses sound hnext
    obtain ⟨hfinal, hloses⟩ := ih hsound hrun
    refine ⟨hfinal, hloses.trans ?_⟩
    rw [guarded_cons_iff hnext, hstep, not_and_or, or_assoc]

theorem Log.JoinedAt.sound (h : log.JoinedAt joined conversationId state) :
    state.Sound log conversationId installationId joined := by
  obtain ⟨groupId, hrecord⟩ := h.record
  refine ⟨groupId, joined, state.stored, ?_, hrecord⟩
  exact {
    merged_le := le_rfl
    epoch := h.epoch
    covered := fun index entry hlt hentry _ => Or.inl ((h.stored index entry hentry).mp hlt)
    ahead := by
      intro index entry hge hentry _
      refine ⟨?_, fun hlt => by omega⟩
      by_contra hle
      have := (h.stored index entry hentry).mpr (by omega)
      omega
    texts := by
      intro index entry message hentry hpeer hmessage
      rw [h.cache entry (List.mem_of_getElem? hentry) hpeer.2.2] at hmessage
      cases hmessage
    opened := fun index entry hentry hpeer hopened =>
      absurd hopened (h.opened entry (List.mem_of_getElem? hentry) hpeer.2.2) }

theorem Log.JoinedAt.loses_none (h : log.JoinedAt joined conversationId state) :
    ¬ LosesSome log installationId joined state.device := by
  rintro ⟨index, entry, hentry, hpeer, _, hlt, _⟩
  have hafter : state.stored ≤ index := by
    by_contra hbefore
    have hle := (h.stored index entry hentry).mp (by omega)
    have := hpeer.2.2
    omega
  have hmono : log.epochAt state.stored ≤ log.epochAt index := Log.epochAt_mono hafter
  rw [h.epoch] at hlt
  omega

theorem keepsUnread_answered (cache : MessageCache)
    (answered : ∀ envelopeId, fetches envelopeId = .answered) (processed : Nat)
    (entries : List Entry) :
    keepsUnread installationId joined fetches cache false processed entries = true := by
  induction entries generalizing processed with
  | nil => rfl
  | cons entry entries ih =>
    unfold keepsUnread
    rw [answered]
    cases entry.envelopeClass with
    | mlsCommit =>
      dsimp only
      rw [Bool.not_false, Bool.or_true, Bool.true_and, ih, ih, ite_self]
    | application =>
      dsimp only
      rw [ih, ite_self]
    | externalProposal => exact ih processed

/-- A complete call in which every fetch succeeds shows every message of another sender that was
stored after the join, if and only if no earlier call merged a Commit after the fetch of an unread
message was refused in it, and the device made no Commit while a stored message was unread. -/
theorem readable_iff {start state : State} {steps : List Step}
    (joins : log.JoinedAt joined conversationId start)
    (h : run (takeStep log conversationId installationId) steps start = some state)
    (all : log.entries.length ≤ state.stored) :
    log.Readable installationId joined (log.poll conversationId installationId
        log.entries.length (fun _ => .answered) state.device) ↔
      Guarded (takeStep log conversationId installationId)
        (Keeps installationId joined log conversationId) steps start := by
  have hstart : start.Sound log conversationId installationId joined := joins.sound
  obtain ⟨hsound, hloses⟩ := run_loses hstart h
  obtain ⟨groupId, processed, _, hpolled⟩ := hsound.polled (fun _ => .answered) all
  have hfinal := hpolled.loses
  rw [keepsUnread_answered _ fun _ => rfl] at hfinal
  have hlost : LosesSome log installationId joined (log.poll conversationId installationId
        log.entries.length (fun _ => .answered) state.device) ↔
      ¬ Guarded (takeStep log conversationId installationId)
        (Keeps installationId joined log conversationId) steps start := by
    rw [hfinal, hloses]
    simp only [joins.loses_none, false_or, Bool.true_eq_false, or_false]
  rw [← not_iff_not, ← hlost]
  obtain ⟨reached, merged, hfollows, _⟩ := hpolled.follows
  constructor
  · intro hunreadable
    by_contra hnone
    refine hunreadable fun entry hentry hpeer => ?_
    obtain ⟨index, hindex, hget⟩ := List.mem_iff_getElem.mp hentry
    have hplace := List.getElem?_eq_some_iff.mpr ⟨hindex, hget⟩
    obtain ⟨message, hmessage⟩ := Option.isSome_iff_exists.mp
      (hpolled.complete (fun _ => rfl) index entry hindex hplace hpeer)
    by_contra hshown
    rcases hfollows.texts index entry message hplace hpeer hmessage with htext | ⟨htext, hlt⟩
    · exact hshown ⟨message, hmessage, htext⟩
    · refine hnone ⟨index, entry, hplace, hpeer, fun hempty => ?_, hlt, hshown⟩
      exact hshown ⟨message, hmessage, htext.trans hempty.symm⟩
  · rintro ⟨index, entry, hentry, hpeer, _, _, hshown⟩ hreadable
    exact hshown (hreadable entry (List.mem_of_getElem? hentry) hpeer)

end

def samplePeer : Option String := some "peer"

def sampleEntries : List Entry := [
  ⟨"envelope-1", .mlsCommit, 1, "commit-1", samplePeer, ""⟩,
  ⟨"envelope-2", .application, 2, "message-2", samplePeer, "hello"⟩,
  ⟨"envelope-3", .mlsCommit, 3, "commit-3", samplePeer, ""⟩]

def sampleLog : Log := ⟨sampleEntries, by decide, by decide, by decide⟩

def sampleStart : State := ⟨1, {
  groups := [("conversation", .record ⟨"group", 1⟩)]
  cache := []
  epoch := 1
  opened := [] }⟩

theorem sampleStart_joins : sampleLog.JoinedAt 1 "conversation" sampleStart where
  stored := by
    intro index entry hentry
    match index with
    | 0 | 1 | 2 => cases hentry; decide
    | _ + 3 => cases hentry
  record := ⟨"group", rfl⟩
  epoch := rfl
  cache := fun _ _ _ => rfl
  opened := fun _ _ _ => List.not_mem_nil

def sampleStep : Step → State → Option State := takeStep sampleLog "conversation" (some "me")

def refusedFetch (envelopeId : String) : Fetch :=
  if envelopeId = "envelope-2" then .refused else .answered

/-- The fetch of the message is refused once, and is asked for again before the Commit comes. -/
def retriedSteps : List Step :=
  [.store false, .poll 2 refusedFetch, .poll 2 fun _ => .answered, .store false]

/-- The fetch of the message is refused in a call that goes on to the Commit. -/
def refusedSteps : List Step := [.store false, .store false, .poll 3 refusedFetch]

theorem readable_retried :
    ∃ state, run sampleStep retriedSteps sampleStart = some state ∧
      sampleLog.Readable (some "me") 1
        (sampleLog.poll "conversation" (some "me") 3 (fun _ => .answered) state.device) := by
  have hkept : Guarded sampleStep (Keeps (some "me") 1 sampleLog "conversation") retriedSteps
      sampleStart := by decide
  exact ⟨_, rfl, (readable_iff sampleStart_joins rfl (by decide)).mpr hkept⟩

theorem refused_fetch_loses_message :
    ∃ state, run sampleStep refusedSteps sampleStart = some state ∧
      (sampleLog.poll "conversation" (some "me") 3 (fun _ => .answered) state.device).cache =
        [("envelope-2", ⟨"", false, 2⟩)] ∧
      ¬ sampleLog.Readable (some "me") 1
        (sampleLog.poll "conversation" (some "me") 3 (fun _ => .answered) state.device) := by
  refine ⟨_, rfl, by decide, fun readable => ?_⟩
  obtain ⟨message, hmessage, htext⟩ := readable ⟨"envelope-2", .application, 2, "message-2",
    samplePeer, "hello"⟩ (by decide) (by decide)
  cases hmessage
  exact absurd htext (by decide)

end JbChat.Client.Readability
