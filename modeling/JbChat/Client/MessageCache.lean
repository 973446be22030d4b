/- source: src/lib/messaging/conversation.ts
   digest: Sends and polls of one conversation in one page, and the texts that stay in its cache. -/

import JbChat.Client.Conversation

/-!
The calls of a page take turns at their awaits. A watch beside each call notes what the call has
fetched, sealed, posted and opened, and which texts were put into the stored cache when it last read
or wrote it; the calls do not see it.
-/

set_option autoImplicit false

namespace JbChat.Client.MessageCache

open Foundation.Await Foundation.Await.Program Foundation.GuardedRun Conversation

section

/-- The storage of the page, the ciphertexts that were opened and the envelopes met so far. -/
structure Device where
  groups : GroupMap
  cache : MessageCache
  opened : List String
  log : List (String × EnvelopeBody)

/-- What the environment answers to whatever is awaited. -/
abbrev Choice := (op : Op) → op.Answer

/-- A ciphertext opens at most once, an envelope never changes, and an envelope ID is taken once. -/
def answer (installationId : Option String) :
    (op : Op) → Choice → Device → op.Answer × Device
  | .readGroupMap, _, device => (device.groups, device)
  | .writeGroupMap map, _, device => ((), { device with groups := map })
  | .readMessageCache _, _, device => (device.cache, device)
  | .writeMessageCache _ cache, _, device => ((), { device with cache := cache })
  | .openMlsApplication groupId message, choice, device =>
    if message ∈ device.opened then (none, device)
    else match choice (.openMlsApplication groupId message) with
      | none => (none, device)
      | some plaintext => (some plaintext, { device with opened := message :: device.opened })
  | .getEnvelope conversationId envelopeId, choice, device =>
    match choice (.getEnvelope conversationId envelopeId) with
    | .accepted body =>
      match device.log.lookup envelopeId with
      | some stored => (.accepted stored, device)
      | none => (.accepted body, { device with log := (envelopeId, body) :: device.log })
    | response => (response, device)
  | .postEnvelope conversationId input, choice, device =>
    match choice (.postEnvelope conversationId input) with
    | .accepted () =>
      if (device.log.lookup input.envelopeId).isSome then (.refused none, device)
      else (.accepted (), { device with
        log := (input.envelopeId, ⟨input.ciphertext, installationId⟩) :: device.log })
    | response => (response, device)
  | op, choice, device => (choice op, device)

inductive PageCall where
  | send (envelopeId idempotencyKey text : String)
  | decrypt (events : List ConversationEvent)

variable (sha256 : String → String) (conversationId : String) (installationId : Option String)

def PageCall.program : PageCall → Call Unit
  | .send envelopeId idempotencyKey text =>
    sendMessage sha256 envelopeId idempotencyKey conversationId text
  | .decrypt events => do
    let _ ← decryptedMessages conversationId installationId events

end

structure Watch where
  /-- The envelope fetched last, with its sender. -/
  fetched : Option (String × Option String)
  /-- The text sealed last. -/
  plaintext : String
  posted : Option String
  /-- The text sent or opened last, until it is in the stored cache. -/
  pending : Option (String × String)

def Watch.idle : Watch := ⟨none, "", none, none⟩

/-- A text that a call has sent or opened, and the envelope it belongs to. -/
structure CallText where
  call : Nat
  envelopeId : String
  text : String

structure Watched where
  device : Device
  watches : Nat → Watch
  /-- The plaintexts that `openMlsApplication` has returned. -/
  openings : List CallText
  /-- The texts whose calls have written them to the stored cache. -/
  puts : List CallText
  /-- How many texts were put when a call last read or wrote the cache. -/
  seen : Nat → Nat

def noteAnswer (watch : Watch) : (op : Op) → op.Answer → Watch
  | .getEnvelope _ envelopeId, response => { watch with
      fetched := match response with
        | .accepted body => some (envelopeId, body.senderInstallationId)
        | _ => none }
  | .sealMlsApplication _ plaintext, _ => { watch with plaintext := plaintext }
  | .postEnvelope _ input, response =>
    match response with
    | .accepted () => { watch with
        posted := some input.envelopeId
        pending := some (input.envelopeId, watch.plaintext) }
    | _ => watch
  | .openMlsApplication _ _, plaintext => { watch with
      pending := match watch.fetched, plaintext with
        | some fetched, some plaintext => some (fetched.1, plaintext)
        | _, _ => none }
  | .writeMessageCache _ _, _ => { watch with pending := none }
  | _, _ => watch

def openingsOf (index : Nat) (watch : Watch) : (op : Op) → op.Answer → List CallText
  | .openMlsApplication _ _, plaintext =>
    match watch.fetched, plaintext with
    | some fetched, some plaintext => [⟨index, fetched.1, plaintext⟩]
    | _, _ => []
  | _, _ => []

def putsOf (index : Nat) (watch : Watch) : Op → List CallText
  | .writeMessageCache _ _ =>
    watch.pending.toList.map fun pending => ⟨index, pending.1, pending.2⟩
  | _ => []

/-- The call has read or written the stored cache. -/
def meetsCache : Op → Bool
  | .readMessageCache _ => true
  | .writeMessageCache _ _ => true
  | _ => false

/-- The answer to a call, with what its watch notes of it. -/
def observed (installationId : Option String) (index : Nat) (op : Op) (choice : Choice)
    (state : Watched) : op.Answer × Watched :=
  let (given, device) := answer installationId op choice state.device
  let watch := state.watches index
  let puts := putsOf index watch op ++ state.puts
  (given, {
    device := device
    watches := Function.update state.watches index (noteAnswer watch op given)
    openings := openingsOf index watch op given ++ state.openings
    puts := puts
    seen := if meetsCache op then Function.update state.seen index puts.length else state.seen })

section

/-- The calls that were started in the page, and how far they are. -/
structure Page where
  pool : Pool Op Op.Answer String Unit Watched
  started : List PageCall

def Page.open (device : Device) : Page := ⟨⟨⟨device, fun _ => .idle, [], [], fun _ => 0⟩, []⟩, []⟩

inductive PageTurn where
  | start (call : PageCall)
  | resume (index : Nat) (choice : Choice)

variable (sha256 : String → String) (conversationId : String) (installationId : Option String)

def takeTurn : PageTurn → Page → Option Page
  | .start call, page =>
    (page.pool.take (observed installationId)
      (.start (call.program sha256 conversationId installationId))).map
        fun pool => ⟨pool, page.started ++ [call]⟩
  | .resume index choice, page =>
    (page.pool.take (observed installationId) (.resume index choice)).map
      fun pool => { page with pool := pool }

def Page.awaited (page : Page) (index : Nat) : Option Op :=
  match page.pool.calls[index]? with
  | some (.await op _) => some op
  | _ => none

/-- No other call has put a text since the call read the stored cache or last wrote it. -/
def isCurrent (index : Nat) (state : Watched) : Bool :=
  decide (state.seen index = state.puts.length)

def writesCache : Op → Bool
  | .writeMessageCache _ _ => true
  | _ => false

def Unovertaken : PageTurn → Page → Prop
  | .start _, _ => True
  | .resume index _, page => ∀ op ∈ page.awaited index, writesCache op →
      isCurrent index page.pool.shared

instance Unovertaken.decide : (turn : PageTurn) → (page : Page) → Decidable (Unovertaken turn page)
  | .start _, _ => .isTrue trivial
  | .resume index _, page => inferInstanceAs (Decidable (∀ op ∈ page.awaited index, _ → _))

def CallText.HeldBy (text : CallText) (cache : MessageCache) : Prop :=
  ∃ message, cache.lookup text.envelopeId = some message ∧ message.text = text.text

/-- Whatever was put is in the stored cache, the text of a `sendMessage` that has returned was put,
and a plaintext was put too, unless its call is just about to write it. -/
structure Page.KeepsTexts (page : Page) : Prop where
  puts : ∀ put ∈ page.pool.shared.puts, put.HeldBy page.pool.shared.device.cache
  sent : ∀ (index : Nat) (envelopeId idempotencyKey text : String),
    page.started[index]? = some (PageCall.send envelopeId idempotencyKey text) →
      page.pool.calls[index]? = some (Program.done ()) →
        CallText.mk index envelopeId text ∈ page.pool.shared.puts
  opened : ∀ opening ∈ page.pool.shared.openings, opening ∈ page.pool.shared.puts ∨
    ∃ conversationId cache next, page.pool.calls[opening.call]? =
      some (Program.await (.writeMessageCache conversationId cache) next) ∧ opening.HeldBy cache

end

section

variable (installationId : Option String) (choice : Choice) (device : Device)

theorem lookup_cons_of_absent {envelopeId other : String} {stored old : EnvelopeBody}
    {log : List (String × EnvelopeBody)} (absent : log.lookup envelopeId = none)
    (h : log.lookup other = some old) :
    List.lookup other ((envelopeId, stored) :: log) = some old := by
  have hne : (other == envelopeId) = false := by
    rw [beq_eq_false_iff_ne]
    rintro rfl
    rw [absent] at h
    cases h
  rw [List.lookup_cons, hne]
  exact h

theorem answer_getEnvelope (conversationId envelopeId : String) :
    (answer installationId (.getEnvelope conversationId envelopeId) choice device).2.cache =
        device.cache ∧
      (∀ other old, device.log.lookup other = some old →
        (answer installationId (.getEnvelope conversationId envelopeId) choice device).2.log.lookup
          other = some old) ∧
      ∀ body, (answer installationId (.getEnvelope conversationId envelopeId) choice device).1 =
        .accepted body →
          (answer installationId (.getEnvelope conversationId envelopeId) choice
            device).2.log.lookup envelopeId = some body := by
  unfold answer
  dsimp only
  split
  · next offered hoffered =>
      split
      · next stored hstored =>
          exact ⟨rfl, fun _ _ h => h, by rintro _ ⟨⟩; exact hstored⟩
      · next habsent =>
          refine ⟨rfl, fun other old h => lookup_cons_of_absent habsent h, ?_⟩
          rintro _ ⟨⟩
          simp
  · next refused hrefused =>
      exact ⟨rfl, fun _ _ h => h, fun body hbody => absurd hbody (hrefused body)⟩

theorem answer_postEnvelope (conversationId : String) (input : EnvelopeRequest) :
    (answer installationId (.postEnvelope conversationId input) choice device).2.cache =
        device.cache ∧
      (∀ other old, device.log.lookup other = some old →
        (answer installationId (.postEnvelope conversationId input) choice device).2.log.lookup
          other = some old) ∧
      ((answer installationId (.postEnvelope conversationId input) choice device).1 =
        .accepted () → device.log.lookup input.envelopeId = none ∧ ∃ stored,
          (answer installationId (.postEnvelope conversationId input) choice
            device).2.log.lookup input.envelopeId = some stored ∧
          stored.senderInstallationId = installationId) := by
  unfold answer
  dsimp only
  split
  · split_ifs with htaken
    · exact ⟨rfl, fun _ _ h => h, nofun⟩
    · have habsent := Option.not_isSome_iff_eq_none.mp htaken
      exact ⟨rfl, fun other old h => lookup_cons_of_absent habsent h, fun _ =>
        ⟨habsent, ⟨input.ciphertext, installationId⟩, by simp, rfl⟩⟩
  · next refused hrefused =>
      exact ⟨rfl, fun _ _ h => h, fun hbody => absurd hbody hrefused⟩

theorem answer_openMlsApplication (groupId message : String) :
    (answer installationId (.openMlsApplication groupId message) choice device).2.cache =
        device.cache ∧
      ∀ other old, device.log.lookup other = some old →
        (answer installationId (.openMlsApplication groupId message) choice device).2.log.lookup
          other = some old := by
  unfold answer
  dsimp only
  split_ifs
  · exact ⟨rfl, fun _ _ h => h⟩
  · split <;> exact ⟨rfl, fun _ _ h => h⟩

end

section

variable {installationId : Option String}

def Extends (copy written : MessageCache) : Prop :=
  ∀ envelopeId message, copy.lookup envelopeId = some message →
    written.lookup envelopeId = some message

/-- A write keeps the copy of the last read or write, but for the entry of an envelope that the call
has posted, and it holds the pending text. -/
structure Writes (installationId : Option String) (copy : MessageCache) (watch : Watch)
    (written : MessageCache) : Prop where
  keeps : ∀ envelopeId message, copy.lookup envelopeId = some message →
    written.lookup envelopeId = some message ∨
      watch.posted = some envelopeId ∧ ∃ text, watch.pending = some (envelopeId, text)
  holds : ∀ envelopeId text, watch.pending = some (envelopeId, text) →
    (∃ message, written.lookup envelopeId = some message ∧ message.text = text) ∧
      (watch.posted = some envelopeId ∨
        ∃ sender, watch.fetched = some (envelopeId, sender) ∧ sender ≠ installationId)

/-- What is left of a call: each write adds to the copy of the call, whatever is opened is of
another sender and is written at once, and the text owed is put before the call returns. -/
def Carries (installationId : Option String) : Option MessageCache → Watch →
    Option (String × String) → Call Unit → Prop
  | _, watch, owed, .done () => watch.pending = none ∧ owed = none
  | _, watch, _, .reject _ => watch.posted = none → watch.pending = none
  | copy, watch, owed, .await op next =>
    (writesCache op ∨ (watch.posted = none → watch.pending = none)) ∧
    match op, next with
    | .readMessageCache _, next => ∀ cache, Carries installationId (some cache) watch owed
        (next cache)
    | .writeMessageCache _ cache, next => (∃ old, copy = some old ∧
        Writes installationId old watch cache) ∧
          Carries installationId (some cache) { watch with pending := none }
            (if watch.pending = owed then none else owed) (next ())
    | .openMlsApplication groupId message, next => (∃ fetched, watch.fetched = some fetched ∧
        fetched.2 ≠ installationId) ∧ watch.posted = none ∧ ∀ plaintext,
          Carries installationId copy
            (noteAnswer watch (.openMlsApplication groupId message) plaintext) owed
            (next plaintext)
    | .postEnvelope conversationId input, next => watch.posted = none ∧ ∀ given,
        Carries installationId copy (noteAnswer watch (.postEnvelope conversationId input) given)
          owed (next given)
    | op, next => ∀ given, Carries installationId copy (noteAnswer watch op given) owed
        (next given)

/-- The text that the call puts before it returns. -/
def PageCall.owes : PageCall → Option (String × String)
  | .send envelopeId _ text => some (envelopeId, text)
  | .decrypt _ => none

theorem sendMessage_carries (sha256 : String → String)
    (envelopeId key conversationId text : String) :
    Carries installationId none .idle (some (envelopeId, text))
      (sendMessage sha256 envelopeId key conversationId text) := by
  have settled {op : Op} {watch : Watch} (h : watch.pending = none) :
      writesCache op ∨ (watch.posted = none → watch.pending = none) := .inr fun _ => h
  unfold sendMessage
  rw [groupIdFor_bind]
  refine ⟨settled rfl, fun map => ?_⟩
  dsimp only
  cases (asRecord (List.lookup conversationId map)).map GroupRecord.groupId with
  | none => exact fun _ => rfl
  | some groupId =>
    refine ⟨settled rfl, fun response => ?_⟩
    rcases response with _ | _ | detail
    · exact fun _ => rfl
    · exact fun _ => rfl
    dsimp only [expect, pure_eq, Program.bind]
    cases detail.policyHead with
    | none => exact fun _ => rfl
    | some policyHead =>
      dsimp only
      split_ifs
      · exact fun _ => rfl
      refine ⟨settled rfl, fun sealed => ?_⟩
      rcases sealed with _ | sealed
      · exact fun _ => rfl
      refine ⟨settled rfl, rfl, fun response => ?_⟩
      rcases response with _ | _ | ⟨⟩
      · exact fun _ => rfl
      · exact fun _ => rfl
      -- The text is pending from here on, until the last write.
      refine ⟨.inr nofun, fun cache => ⟨.inr nofun, fun receipt => ?_⟩⟩
      rcases receipt with _ | accepted
      · exact nofun
      refine ⟨.inl rfl, ⟨cache, rfl, fun other message hother => ?_, ?_⟩, rfl, if_pos rfl⟩
      · by_cases hsame : other = envelopeId
        · exact Or.inr ⟨congrArg some hsame.symm, text, by rw [hsame]; rfl⟩
        · exact Or.inl ((lookup_assign_of_ne hsame).trans hother)
      · rintro pending opened ⟨⟩
        exact ⟨⟨_, lookup_assign_self, rfl⟩, Or.inl rfl⟩

theorem extends_assign {copy cache : MessageCache} {envelopeId : String} {message : CachedMessage}
    (h : Extends copy cache) (absent : cache.lookup envelopeId = none) :
    Extends copy (assign envelopeId message cache) := by
  intro other stored hstored
  have hcache := h other stored hstored
  have hne : other ≠ envelopeId := by
    rintro rfl
    rw [absent] at hcache
    cases hcache
  exact (lookup_assign_of_ne hne).trans hcache

theorem decryptEvents_carries (conversationId groupId : String)
    {events : List ConversationEvent} {processed : Nat} {copy cache : MessageCache} {watch : Watch}
    (extended : Extends copy cache) (unposted : watch.posted = none)
    (settled : watch.pending = none) :
    Carries installationId (some copy) watch none
      (decryptEvents conversationId groupId installationId events processed cache >>=
        fun _ => pure ()) := by
  induction events generalizing processed copy cache watch with
  | nil => exact ⟨settled, rfl⟩
  | cons event events ih =>
    unfold decryptEvents
    cases event.envelopeClass with
    | externalProposal => exact ih extended unposted settled
    | mlsCommit =>
      dsimp only
      split_ifs with hprocessed
      · exact ih extended unposted settled
      refine ⟨.inr fun _ => settled, fun response => ?_⟩
      rcases response with _ | _ | body
      · exact fun _ => settled
      · exact ⟨settled, rfl⟩
      dsimp only [okBody, pure_eq, Program.bind]
      have hremembered {group : String} {position : Nat} {rest : Call Unit}
          (h : Carries installationId (some copy)
            { watch with fetched := some (event.envelopeId, body.senderInstallationId) }
            none rest) :
          Carries installationId (some copy)
            { watch with fetched := some (event.envelopeId, body.senderInstallationId) } none
            (rememberGroup conversationId group position >>= fun _ => rest) :=
        ⟨.inr fun _ => settled, fun map => ⟨.inr fun _ => settled, fun _ => h⟩⟩
      split_ifs with hown
      · exact hremembered (ih extended unposted settled)
      · refine ⟨.inr fun _ => settled, fun merged => ?_⟩
        rcases merged with _ | ⟨⟩
        · exact ⟨settled, rfl⟩
        · exact hremembered (ih extended unposted settled)
    | application =>
      dsimp only
      split_ifs with hcached
      · exact ih extended unposted settled
      refine ⟨.inr fun _ => settled, fun response => ?_⟩
      rcases response with _ | _ | body
      · exact fun _ => settled
      · exact ih extended unposted settled
      dsimp only [okBody, pure_eq, Program.bind]
      have habsent : cache.lookup event.envelopeId = none := by
        rwa [Option.not_isSome_iff_eq_none] at hcached
      split_ifs with hown
      · exact ih (extends_assign extended habsent) unposted settled
      refine ⟨.inr fun _ => settled, ⟨_, rfl, hown⟩, unposted, fun plaintext => ?_⟩
      -- The write follows at once, with the text that was opened.
      refine ⟨.inl rfl, ⟨copy, rfl, fun other message hother => ?_, fun opened text hpending => ?_⟩, ?_⟩
      · exact Or.inl (extends_assign extended habsent other message hother)
      · cases plaintext with
        | none => cases hpending
        | some plaintext =>
          cases hpending
          exact ⟨⟨_, lookup_assign_self, rfl⟩, Or.inr ⟨_, rfl, hown⟩⟩
      · rw [ite_self]
        exact ih (fun _ _ hstored => hstored) unposted rfl

theorem PageCall.program_carries (sha256 : String → String) (conversationId : String)
    (call : PageCall) :
    Carries installationId none .idle call.owes
      (call.program sha256 conversationId installationId) := by
  cases call with
  | send envelopeId idempotencyKey text =>
    exact sendMessage_carries sha256 envelopeId idempotencyKey conversationId text
  | decrypt events =>
    refine ⟨.inr fun _ => rfl, fun map => ⟨.inr fun _ => rfl, fun cache => ?_⟩⟩
    dsimp only [pure_eq, Program.bind]
    cases asRecord (List.lookup conversationId map) with
    | none => exact ⟨rfl, rfl⟩
    | some record =>
      exact decryptEvents_carries conversationId record.groupId (fun _ _ hstored => hstored)
        rfl rfl

end

section

variable {installationId : Option String} {state : Watched} {index : Nat} {noted : Watch}
  {device : Device} {seen : Nat → Nat} {op : Op} {choice : Choice} {started : List PageCall}

structure Watched.Sound (installationId : Option String) (state : Watched) : Prop where
  held : ∀ put ∈ state.puts, put.HeldBy state.device.cache
  origins : ∀ put ∈ state.puts,
    ((state.watches put.call).posted = some put.envelopeId ∧
      (state.watches put.call).pending = none) ∨
    ∃ stored, state.device.log.lookup put.envelopeId = some stored ∧
      stored.senderInstallationId ≠ installationId
  posted : ∀ index envelopeId, (state.watches index).posted = some envelopeId →
    ∃ stored, state.device.log.lookup envelopeId = some stored ∧
      stored.senderInstallationId = installationId
  posters : ∀ index other envelopeId, (state.watches index).posted = some envelopeId →
    (state.watches other).posted = some envelopeId → index = other
  fetched : ∀ index envelopeId sender,
    (state.watches index).fetched = some (envelopeId, sender) →
      ∃ stored, state.device.log.lookup envelopeId = some stored ∧
        stored.senderInstallationId = sender
  openings : ∀ opening ∈ state.openings, opening ∈ state.puts ∨
    ((state.watches opening.call).posted = none ∧
      (state.watches opening.call).pending = some (opening.envelopeId, opening.text))

/-- What a call that was started relies on: its copy has whatever was put when it was current, and
the text of a send is owed until it is put. -/
def Relies (installationId : Option String) (started : List PageCall) (index : Nat)
    (call : Call Unit) (state : Watched) : Prop :=
  state.seen index ≤ state.puts.length ∧ ∃ copy owed,
    Carries installationId copy (state.watches index) owed call ∧
    (∀ cache, copy = some cache → state.seen index = state.puts.length →
      ∀ put ∈ state.puts, put.HeldBy cache) ∧
    ∀ envelopeId idempotencyKey text,
      started[index]? = some (PageCall.send envelopeId idempotencyKey text) →
        owed = some (envelopeId, text) ∨ CallText.mk index envelopeId text ∈ state.puts

/-- An answer that writes no cache keeps the state sound. -/
theorem Watched.Sound.note (sound : state.Sound installationId) {opened : List CallText}
    (settled : (state.watches index).posted = none → (state.watches index).pending = none)
    (cache : device.cache = state.device.cache)
    (log : ∀ envelopeId stored, state.device.log.lookup envelopeId = some stored →
      device.log.lookup envelopeId = some stored) (same : (state.watches index).posted = none ∨
      noted.posted = (state.watches index).posted ∧ noted.pending = (state.watches index).pending)
    (posts : ∀ envelopeId, noted.posted = some envelopeId →
      (state.watches index).posted = some envelopeId ∨
      state.device.log.lookup envelopeId = none ∧ ∃ stored,
        device.log.lookup envelopeId = some stored ∧ stored.senderInstallationId = installationId)
    (fetches : ∀ envelopeId sender, noted.fetched = some (envelopeId, sender) →
      ∃ stored, device.log.lookup envelopeId = some stored ∧
        stored.senderInstallationId = sender)
    (opens : ∀ opening ∈ opened, opening.call = index ∧ noted.posted = none ∧
      noted.pending = some (opening.envelopeId, opening.text)) :
    Watched.Sound installationId ⟨device, Function.update state.watches index noted,
      opened ++ state.openings, state.puts, seen⟩ := by
  have hlog {envelopeId : String} {P : Option String → Prop}
      (h : ∃ stored, state.device.log.lookup envelopeId = some stored ∧
        P stored.senderInstallationId) :
      ∃ stored, device.log.lookup envelopeId = some stored ∧ P stored.senderInstallationId := by
    obtain ⟨stored, hstored, hsender⟩ := h
    exact ⟨stored, log envelopeId stored hstored, hsender⟩
  -- An envelope that is posted now was in no log before.
  have hnew {other : Nat} {envelopeId : String} (hposted : noted.posted = some envelopeId)
      (hother : (state.watches other).posted = some envelopeId) : index = other := by
    rcases posts envelopeId hposted with hold | ⟨habsent, _⟩
    · exact sound.posters index other envelopeId hold hother
    · obtain ⟨stored, hstored, _⟩ := sound.posted other envelopeId hother
      rw [habsent] at hstored
      cases hstored
  refine ⟨fun put hput => ?_, fun put hput => ?_, fun other envelopeId hother => ?_,
    fun first second envelopeId hfirst hsecond => ?_, fun other envelopeId sender hother => ?_,
    fun opening hopening => ?_⟩ <;> dsimp only at *
  · rw [cache]
    exact sound.held put hput
  · rcases sound.origins put hput with ⟨hposted, hpending⟩ | hpeer
    · refine Or.inl ?_
      rcases eq_or_ne put.call index with hcall | hcall
      · rw [hcall] at hposted hpending ⊢
        rw [Function.update_self]
        rcases same with hnone | ⟨hposts, hpends⟩
        · rw [hnone] at hposted
          cases hposted
        · exact ⟨hposts.trans hposted, hpends.trans hpending⟩
      · rw [Function.update_of_ne hcall]
        exact ⟨hposted, hpending⟩
    · exact Or.inr (hlog (P := (· ≠ installationId)) hpeer)
  · rcases eq_or_ne other index with rfl | hne
    · rw [Function.update_self] at hother
      rcases posts envelopeId hother with hold | ⟨_, hown⟩
      · exact hlog (P := (· = installationId)) (sound.posted other envelopeId hold)
      · exact hown
    · rw [Function.update_of_ne hne] at hother
      exact hlog (P := (· = installationId)) (sound.posted other envelopeId hother)
  · rcases eq_or_ne first index with rfl | hfirstNe
    · rcases eq_or_ne second first with rfl | hsecondNe
      · rfl
      · rw [Function.update_self] at hfirst
        rw [Function.update_of_ne hsecondNe] at hsecond
        exact hnew hfirst hsecond
    · rw [Function.update_of_ne hfirstNe] at hfirst
      rcases eq_or_ne second index with rfl | hsecondNe
      · rw [Function.update_self] at hsecond
        exact (hnew hsecond hfirst).symm
      · rw [Function.update_of_ne hsecondNe] at hsecond
        exact sound.posters first second envelopeId hfirst hsecond
  · rcases eq_or_ne other index with rfl | hne
    · rw [Function.update_self] at hother
      exact fetches envelopeId sender hother
    · rw [Function.update_of_ne hne] at hother
      exact hlog (P := (· = sender)) (sound.fetched other envelopeId sender hother)
  · rcases List.mem_append.mp hopening with hnow | hbefore
    · obtain ⟨hcall, hpending⟩ := opens opening hnow
      rw [hcall, Function.update_self]
      exact Or.inr hpending
    · rcases sound.openings opening hbefore with hput | ⟨hposted, hpending⟩
      · exact Or.inl hput
      · have hcall : opening.call ≠ index := by
          intro hcall
          rw [hcall] at hposted hpending
          rw [settled hposted] at hpending
          cases hpending
        rw [Function.update_of_ne hcall]
        exact Or.inr ⟨hposted, hpending⟩

/-- A current call that writes the cache keeps what was put, and puts the pending text. -/
theorem Watched.Sound.write (sound : state.Sound installationId) {copy cache : MessageCache}
    (conversationId : String) (seen : Nat → Nat) (copied : ∀ put ∈ state.puts, put.HeldBy copy)
    (writes : Writes installationId copy (state.watches index) cache) :
    Watched.Sound installationId ⟨{ state.device with cache := cache },
      Function.update state.watches index { state.watches index with pending := none },
      state.openings,
      putsOf index (state.watches index) (.writeMessageCache conversationId cache) ++
        state.puts, seen⟩ := by
  have hnew {put : CallText}
      (h : put ∈ putsOf index (state.watches index) (.writeMessageCache conversationId cache)) :
      put.call = index ∧
        (state.watches index).pending = some (put.envelopeId, put.text) := by
    obtain ⟨pending, hpending, rfl⟩ := List.mem_map.mp h
    exact ⟨rfl, Option.mem_toList.mp hpending⟩
  have hposted (other : Nat) : (Function.update state.watches index
      { state.watches index with pending := none } other).posted =
        (state.watches other).posted := by
    rcases eq_or_ne other index with rfl | hne
    · rw [Function.update_self]
    · rw [Function.update_of_ne hne]
  have hfetched (other : Nat) : (Function.update state.watches index
      { state.watches index with pending := none } other).fetched =
        (state.watches other).fetched := by
    rcases eq_or_ne other index with rfl | hne
    · rw [Function.update_self]
    · rw [Function.update_of_ne hne]
  refine ⟨fun put hput => ?_, fun put hput => ?_, fun other envelopeId hother => ?_,
    fun first second envelopeId hfirst hsecond => ?_, fun other envelopeId sender hother => ?_,
    fun opening hopening => ?_⟩ <;> dsimp only at *
  · rcases List.mem_append.mp hput with hnow | hbefore
    · exact (writes.holds put.envelopeId put.text (hnew hnow).2).1
    · obtain ⟨message, hmessage, htext⟩ := copied put hbefore
      rcases writes.keeps put.envelopeId message hmessage with hkept | ⟨hown, text, hpending⟩
      · exact ⟨message, hkept, htext⟩
      -- The entry that is overwritten is of an envelope whose text was not put before.
      · exfalso
        rcases sound.origins put hbefore with ⟨hcall, hsettled⟩ | ⟨stored, hstored, hpeer⟩
        · have hsame := sound.posters put.call index put.envelopeId hcall hown
          rw [hsame, hpending] at hsettled
          cases hsettled
        · obtain ⟨other, hother, hsender⟩ := sound.posted index put.envelopeId hown
          rw [hstored] at hother
          exact hpeer (Option.some.inj hother ▸ hsender)
  · rcases List.mem_append.mp hput with hnow | hbefore
    · obtain ⟨hcall, hpending⟩ := hnew hnow
      rcases (writes.holds put.envelopeId put.text hpending).2 with hown | ⟨sender, hsender, hpeer⟩
      · refine Or.inl ?_
        rw [hcall, Function.update_self]
        exact ⟨hown, rfl⟩
      · obtain ⟨stored, hstored, hsame⟩ := sound.fetched index put.envelopeId sender hsender
        exact Or.inr ⟨stored, hstored, hsame ▸ hpeer⟩
    · rcases sound.origins put hbefore with ⟨hcall, hsettled⟩ | hpeer
      · refine Or.inl ⟨(hposted put.call).trans hcall, ?_⟩
        rcases eq_or_ne put.call index with hsame | hne
        · rw [hsame, Function.update_self]
        · rw [Function.update_of_ne hne]
          exact hsettled
      · exact Or.inr hpeer
  · exact sound.posted other envelopeId ((hposted other).symm.trans hother)
  · exact sound.posters first second envelopeId ((hposted first).symm.trans hfirst)
      ((hposted second).symm.trans hsecond)
  · exact sound.fetched other envelopeId sender ((hfetched other).symm.trans hother)
  · rcases sound.openings opening hopening with hput | ⟨hnone, hpending⟩
    · exact Or.inl (List.mem_append_right _ hput)
    · rcases eq_or_ne opening.call index with hcall | hne
      · refine Or.inl (List.mem_append_left _ (List.mem_map.mpr ?_))
        rw [hcall] at hpending
        exact ⟨_, Option.mem_toList.mpr hpending, by rw [← hcall]⟩
      · rw [Function.update_of_ne hne]
        exact Or.inr ⟨hnone, hpending⟩

theorem observed_seen_of_ne {other : Nat} (hne : other ≠ index) :
    (observed installationId index op choice state).2.seen other = state.seen other := by
  unfold observed
  dsimp only
  split_ifs
  · exact Function.update_of_ne hne _ _
  · rfl

theorem Relies.others {other : Nat} {call : Call Unit}
    (h : Relies installationId started other call state) (hne : other ≠ index) :
    Relies installationId started other call
      (observed installationId index op choice state).2 := by
  obtain ⟨hseen, copy, owed, hcarries, hcopied, howed⟩ := h
  have hwatch : (observed installationId index op choice state).2.watches other =
      state.watches other := Function.update_of_ne hne _ _
  have hputs : (observed installationId index op choice state).2.puts =
      putsOf index (state.watches index) op ++ state.puts := rfl
  unfold Relies
  rw [hwatch, hputs, observed_seen_of_ne hne, List.length_append]
  refine ⟨by omega, copy, owed, hcarries, fun cache hcache hcurrent => ?_,
    fun envelopeId key text hsend => ?_⟩
  · have hnone : putsOf index (state.watches index) op = [] :=
      List.length_eq_zero_iff.mp (by omega)
    rw [hnone, List.nil_append]
    exact hcopied cache hcache (by omega)
  · exact (howed envelopeId key text hsend).imp_right (List.mem_append_right _)

theorem Relies.resume {openings puts : List CallText} {copy : Option MessageCache}
    {owed : Option (String × String)} {rest : Call Unit}
    (carries : Carries installationId copy noted owed rest) (le : seen index ≤ puts.length)
    (copied : ∀ cache, copy = some cache → seen index = puts.length →
      ∀ put ∈ puts, put.HeldBy cache) (owes : ∀ envelopeId idempotencyKey text,
      started[index]? = some (PageCall.send envelopeId idempotencyKey text) →
        owed = some (envelopeId, text) ∨ CallText.mk index envelopeId text ∈ puts) :
    Relies installationId started index rest
      ⟨device, Function.update state.watches index noted, openings, puts, seen⟩ := by
  refine ⟨le, copy, owed, ?_, copied, owes⟩
  dsimp only
  rwa [Function.update_self]

/-- What the answer to a call keeps, if the call is current where it writes the cache. -/
theorem observed_keeps {next : op.Answer → Call Unit} (choice : Choice)
    (sound : state.Sound installationId)
    (relies : Relies installationId started index (.await op next) state)
    (current : writesCache op → isCurrent index state) :
    Watched.Sound installationId (observed installationId index op choice state).2 ∧
      Relies installationId started index
        (next (observed installationId index op choice state).1)
        (observed installationId index op choice state).2 := by
  obtain ⟨hseen, copy, owed, hcarries, hcopied, howed⟩ := relies
  have hfetches := sound.fetched index
  have hposts {device : Device} (envelopeId : String)
      (h : (state.watches index).posted = some envelopeId) :
      (state.watches index).posted = some envelopeId ∨
        state.device.log.lookup envelopeId = none ∧ ∃ stored,
          device.log.lookup envelopeId = some stored ∧
            stored.senderInstallationId = installationId := Or.inl h
  cases op with
  | readMessageCache conversationId =>
    obtain ⟨hsettled, hcarries⟩ := hcarries
    refine ⟨sound.note (hsettled.resolve_left nofun) rfl (fun _ _ h => h) (.inr ⟨rfl, rfl⟩)
      hposts hfetches nofun, .resume (hcarries _) ?_ ?_ howed⟩
    · exact (Function.update_self ..).le
    · rintro _ ⟨⟩ _
      exact sound.held
  | writeMessageCache conversationId cache =>
    obtain ⟨_, ⟨old, rfl, hwrites⟩, hcarries⟩ := hcarries
    have hcurrent := of_decide_eq_true (current rfl)
    have hsound := sound.write conversationId
      (observed installationId index (.writeMessageCache conversationId cache) choice
        state).2.seen (hcopied old rfl hcurrent) hwrites
    refine ⟨hsound, .resume hcarries ?_ ?_ fun envelopeId key text hsend => ?_⟩
    · exact (Function.update_self ..).le
    · rintro _ ⟨⟩ _
      exact hsound.held
    · rcases howed envelopeId key text hsend with hsome | hput
      · split_ifs with hpending
        · refine Or.inr (List.mem_append_left _ (List.mem_map.mpr ⟨(envelopeId, text), ?_, rfl⟩))
          rw [hpending, hsome]
          exact List.mem_singleton_self _
        · exact Or.inl hsome
      · exact Or.inr (List.mem_append_right _ hput)
  | getEnvelope conversationId envelopeId =>
    obtain ⟨hsettled, hcarries⟩ := hcarries
    obtain ⟨hcache, hlog, hbody⟩ :=
      answer_getEnvelope installationId choice state.device conversationId envelopeId
    refine ⟨sound.note (hsettled.resolve_left nofun) hcache hlog (.inr ⟨rfl, rfl⟩) hposts
      (fun fetched sender hfetched => ?_) nofun, .resume (hcarries _) hseen hcopied howed⟩
    dsimp only [noteAnswer] at hfetched
    split at hfetched
    · next body hgiven =>
        cases hfetched
        exact ⟨body, hbody body hgiven, rfl⟩
    · cases hfetched
  | postEnvelope conversationId input =>
    obtain ⟨hsettled, hnone, hcarries⟩ := hcarries
    obtain ⟨hcache, hlog, hbody⟩ :=
      answer_postEnvelope installationId choice state.device conversationId input
    refine ⟨sound.note (hsettled.resolve_left nofun) hcache hlog (.inl hnone)
      (fun posted hposted => ?_) (fun fetched sender hfetched => ?_) nofun,
      .resume (hcarries _) hseen hcopied howed⟩
    · dsimp only [noteAnswer] at hposted
      split at hposted
      · next hgiven =>
          cases hposted
          exact Or.inr (hbody hgiven)
      · exact Or.inl hposted
    · obtain ⟨stored, hstored, hsender⟩ := sound.fetched index fetched sender (by
        dsimp only [noteAnswer] at hfetched
        split at hfetched <;> exact hfetched)
      exact ⟨stored, hlog fetched stored hstored, hsender⟩
  | openMlsApplication groupId message =>
    obtain ⟨hsettled, ⟨fetched, hfetched, hpeer⟩, hnone, hcarries⟩ := hcarries
    obtain ⟨hcache, hlog⟩ :=
      answer_openMlsApplication installationId choice state.device groupId message
    refine ⟨sound.note (hsettled.resolve_left nofun) hcache hlog (.inl hnone)
      (fun posted hposted => Or.inl hposted) (fun other sender hother => ?_)
      (fun opening hopening => ?_), .resume (hcarries _) hseen hcopied howed⟩
    · obtain ⟨stored, hstored, hsender⟩ := hfetches other sender hother
      exact ⟨stored, hlog other stored hstored, hsender⟩
    · dsimp only [openingsOf] at hopening
      split at hopening
      · next met plaintext hmet hgiven =>
          obtain rfl := List.mem_singleton.mp hopening
          refine ⟨rfl, hnone, ?_⟩
          dsimp only [noteAnswer]
          rw [hmet, hgiven]
      · cases hopening
  | _ =>
    obtain ⟨hsettled, hcarries⟩ := hcarries
    exact ⟨sound.note (hsettled.resolve_left nofun) rfl (fun _ _ h => h) (.inr ⟨rfl, rfl⟩)
      hposts hfetches nofun, .resume (hcarries _) hseen hcopied howed⟩

end

section

variable {sha256 : String → String} {conversationId : String} {installationId : Option String}
  {started : List PageCall} {index : Nat} {call : Call Unit} {state : Watched}

structure Page.Sound (installationId : Option String) (page : Page) : Prop where
  started : page.started.length = page.pool.calls.length
  idle : ∀ index, page.pool.calls.length ≤ index →
    page.pool.shared.watches index = .idle ∧ page.pool.shared.seen index = 0
  holds : page.pool.Holds (Watched.Sound installationId) (Relies installationId page.started)

theorem Page.open_sound (installationId : Option String) (device : Device) :
    (Page.open device).Sound installationId where
  started := rfl
  idle _ _ := ⟨rfl, rfl⟩
  holds := ⟨⟨nofun, nofun, nofun, nofun, nofun, nofun⟩, nofun⟩

theorem Relies.started_append (h : Relies installationId started index call state)
    (before : index < started.length) (fresh : PageCall) :
    Relies installationId (started ++ [fresh]) index call state := by
  obtain ⟨hseen, copy, owed, hcarries, hcopied, howed⟩ := h
  refine ⟨hseen, copy, owed, hcarries, hcopied, fun envelopeId key text hsend => ?_⟩
  rw [List.getElem?_append_left before] at hsend
  exact howed envelopeId key text hsend

theorem Relies.fresh (sha256 : String → String) (conversationId : String) {call : PageCall}
    (idle : state.watches started.length = .idle ∧ state.seen started.length = 0) :
    Relies installationId (started ++ [call]) started.length
      (call.program sha256 conversationId installationId) state := by
  refine ⟨by omega, none, call.owes, ?_, nofun, fun envelopeId key text hsend => ?_⟩
  · rw [idle.1]
    exact call.program_carries sha256 conversationId
  · rw [List.getElem?_concat_length] at hsend
    cases hsend
    exact Or.inl rfl

theorem takeTurn_keeps {turn : PageTurn} {page next : Page} (sound : page.Sound installationId)
    (current : Unovertaken turn page)
    (h : takeTurn sha256 conversationId installationId turn page = some next) :
    next.Sound installationId := by
  cases turn with
  | start call =>
    unfold takeTurn at h
    obtain ⟨pool, hpool, rfl⟩ := Option.map_eq_some_iff.mp h
    cases hpool
    have hlength := sound.started
    refine ⟨?_, fun index hindex => sound.idle index ?_, ?_⟩
    · simp only [List.length_append, List.length_singleton, hlength]
    · simp only [List.length_append, List.length_singleton] at hindex
      omega
    · refine Pool.Holds.start ⟨sound.holds.shared, fun index other hother => ?_⟩ ?_
      · have hbefore := (List.getElem?_eq_some_iff.mp hother).1
        exact (sound.holds.each index other hother).started_append (by omega) call
      · rw [← hlength]
        exact .fresh sha256 conversationId (sound.idle _ (by omega))
  | resume index choice =>
    unfold takeTurn at h
    obtain ⟨pool, hpool, rfl⟩ := Option.map_eq_some_iff.mp h
    obtain ⟨op, rest, hcall, rfl⟩ := Pool.take_resume hpool
    have hbound := (List.getElem?_eq_some_iff.mp hcall).1
    have hcurrent : writesCache op → isCurrent index page.pool.shared := by
      refine current op ?_
      unfold Page.awaited
      rw [hcall]
      rfl
    obtain ⟨hshared, hown⟩ := observed_keeps choice sound.holds.shared
      (sound.holds.each index _ hcall) hcurrent
    refine ⟨?_, fun other hother => ?_, sound.holds.resume hshared hown
      fun other call hne _ hrelies => hrelies.others hne⟩
    · dsimp only
      rw [List.length_set]
      exact sound.started
    · dsimp only at hother
      rw [List.length_set] at hother
      have hne : other ≠ index := by omega
      refine ⟨(Function.update_of_ne hne _ _).trans (sound.idle other hother).1, ?_⟩
      exact (observed_seen_of_ne hne).trans (sound.idle other hother).2

theorem Carries.writes {copy : Option MessageCache} {watch : Watch}
    {owed : Option (String × String)} {envelopeId text : String}
    (h : Carries installationId copy watch owed call) (unposted : watch.posted = none)
    (pending : watch.pending = some (envelopeId, text)) :
    ∃ conversationId cache next, call = .await (.writeMessageCache conversationId cache) next ∧
      (CallText.mk index envelopeId text).HeldBy cache := by
  have hunsettled {op : Op}
      (hop : writesCache op ∨ (watch.posted = none → watch.pending = none)) : writesCache op := by
    refine hop.resolve_right fun hsettled => ?_
    rw [hsettled unposted] at pending
    cases pending
  cases call with
  | done result =>
    rw [h.1] at pending
    cases pending
  | reject error =>
    rw [h unposted] at pending
    cases pending
  | await op next =>
    cases op with
    | writeMessageCache conversationId cache =>
      obtain ⟨_, ⟨old, _, hwrites⟩, _⟩ := h
      exact ⟨conversationId, cache, next, rfl, (hwrites.holds envelopeId text pending).1⟩
    | _ => cases hunsettled h.1

theorem Page.Sound.keepsTexts {page : Page} (sound : page.Sound installationId) :
    page.KeepsTexts := by
  refine ⟨sound.holds.shared.held, fun index envelopeId key text hsend hdone => ?_,
    fun opening hopening => ?_⟩
  · obtain ⟨_, copy, owed, ⟨_, hnone⟩, _, howed⟩ := sound.holds.each index _ hdone
    rcases howed envelopeId key text hsend with hsome | hput
    · rw [hnone] at hsome
      cases hsome
    · exact hput
  · rcases sound.holds.shared.openings opening hopening with hput | ⟨hnone, hpending⟩
    · exact Or.inl hput
    · have hbound : opening.call < page.pool.calls.length := by
        by_contra hout
        rw [(sound.idle opening.call (by omega)).1] at hpending
        cases hpending
      have hcall := List.getElem?_eq_getElem hbound
      obtain ⟨_, copy, owed, hcarries, _, _⟩ := sound.holds.each opening.call _ hcall
      obtain ⟨written, cache, next, hwrite, hholds⟩ := hcarries.writes hnone hpending
      exact Or.inr ⟨written, cache, next, hcall.trans (congrArg some hwrite), hholds⟩

/-- If each write of the stored cache is made while no other call has put a text since the writer
read the cache or last wrote it, no text is lost. -/
theorem texts_stay_cached {device : Device} {turns : List PageTurn} {page : Page}
    (guarded : Guarded (takeTurn sha256 conversationId installationId) Unovertaken turns
      (.open device))
    (h : run (takeTurn sha256 conversationId installationId) turns (.open device) = some page) :
    page.KeepsTexts :=
  (invariant_of_run (fun _ _ _ sound current hnext => takeTurn_keeps sound current hnext)
    (Page.open_sound installationId device) guarded h).keepsTexts

end

def sampleDevice : Device := {
  groups := [("conversation", .record ⟨"group", 1⟩)]
  cache := []
  opened := []
  log := [] }

def sampleDetail : ConversationDetail := {
  etag := "\"conversation-1\""
  epoch := 1
  rosterVersion := 0
  confirmedTranscriptHash := "transcript"
  lastPosition := 2
  policyHead := some ⟨"policy-head", 0, "policy-head-hash", "verified"⟩ }

def sampleChoice : Choice
  | .readGroupMap => []
  | .writeGroupMap _ => ()
  | .readMessageCache _ => []
  | .writeMessageCache _ _ => ()
  | .createMlsGroup _ => none
  | .addMlsMembers _ _ => none
  | .removeMlsMember _ _ => none
  | .joinMlsWelcome _ => none
  | .sealMlsApplication _ _ => some "sealed"
  | .openMlsApplication _ _ => some "hello"
  | .processMlsCommit _ _ => none
  | .planConversation _ => .unreachable
  | .postConversation _ => .unreachable
  | .getWelcomes _ => .unreachable
  | .postRelay _ _ => .unreachable
  | .deleteRelay _ => .unreachable
  | .getConversation _ => .accepted sampleDetail
  | .postCommit _ _ => .unreachable
  | .getEnvelope _ _ => .accepted ⟨"sealed-by-peer", some "peer"⟩
  | .postEnvelope _ _ => .accepted ()
  | .envelopeReceipt => some (some 3)

def samplePoll : PageCall := .decrypt [⟨"envelope-2", .application, 2⟩]

def sampleSend : PageCall := .send "envelope-3" "idempotency-key" "hi"

def resumed (index times : Nat) : List PageTurn :=
  List.replicate times (.resume index sampleChoice)

/-- The poll reads the cache, the message is sent, and the poll writes its copy. -/
def staleTurns : List PageTurn :=
  .start samplePoll :: resumed 0 2 ++ .start sampleSend :: resumed 1 7 ++ resumed 0 3

/-- The message is sent before the poll reads the cache. -/
def orderlyTurns : List PageTurn :=
  .start samplePoll :: .start sampleSend :: resumed 1 7 ++ resumed 0 5

def sampleTurn : PageTurn → Page → Option Page := takeTurn id "conversation" (some "me")

theorem texts_stay_cached_orderly :
    ∃ page, run sampleTurn orderlyTurns (.open sampleDevice) = some page ∧
      page.pool.shared.device.cache =
        [("envelope-3", ⟨"hi", true, 3⟩), ("envelope-2", ⟨"hello", false, 2⟩)] ∧
      page.KeepsTexts := by
  have guarded : Guarded sampleTurn Unovertaken orderlyTurns (.open sampleDevice) := by decide
  exact ⟨_, rfl, rfl, texts_stay_cached guarded rfl⟩

theorem stale_poll_drops_sent_text :
    ∃ page, run sampleTurn staleTurns (.open sampleDevice) = some page ∧
      page.started[1]? = some sampleSend ∧ page.pool.calls[1]? = some (.done ()) ∧
      page.pool.shared.device.cache = [("envelope-2", ⟨"hello", false, 2⟩)] ∧
      ¬ page.KeepsTexts := by
  refine ⟨_, rfl, rfl, rfl, rfl, fun keeps => ?_⟩
  obtain ⟨message, hmessage, _⟩ := keeps.puts _ (keeps.sent 1 _ _ _ rfl rfl)
  cases hmessage

end JbChat.Client.MessageCache
