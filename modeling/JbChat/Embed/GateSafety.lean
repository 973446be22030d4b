/- source: src/embed/runtime.ts
   digest: What every run of the embed gates keeps, and that foreign events leave no trace. -/

import JbChat.Embed.Runtime
import JbChat.Foundation.Purge

set_option autoImplicit false

namespace JbChat.Embed.GateSafety

open Foundation.Numbers Foundation.Purge Foundation.SlidingWindow
open StructuredSize Protocol Embed.Runtime

variable {Window Message : Type} [SequencedMessage Message]

section

variable (gate : EmbedInboundGate Window Message) (state : EmbedInboundGateState) (now : Number)

/-- What one `accept` can do. -/
inductive Outcome : EmbedInboundGateState → EmbedGateResult Message → Prop where
  | ignored (reason : EmbedGateRejection) (lasting : reason ≠ .channelExhausted) :
      Outcome state (.rejected reason)
  | limited :
      Outcome { state with attemptTimes := recent (reaches gate.rateWindowMs) now state.attemptTimes }
        (.rejected .rateLimited)
  | refused (reason : EmbedGateRejection) (lasting : reason ≠ .channelExhausted) :
      Outcome
        { state with attemptTimes := recent (reaches gate.rateWindowMs) now state.attemptTimes ++ [now] }
        (.rejected reason)
  | exhausted :
      Outcome
        { state with
          attemptTimes := recent (reaches gate.rateWindowMs) now state.attemptTimes ++ [now]
          closed := true }
        (.rejected .channelExhausted)
  | taken (data : StructuredValue) (expected : EmbedEnvelopeExpectation) (message : Message)
      (opened : state.closed = false)
      (budget : gate.maxMessagesPerWindow.le
        (ofInt (recent (reaches gate.rateWindowMs) now state.attemptTimes).length) = false)
      (sequence : expected.sequence = state.nextSequence)
      (parsed : gate.parse data expected = some message)
      (fresh : ∀ requestId ∈ countedRequestId message, requestId ∉ state.seenRequestIds)
      (room : gate.maxAcceptedMessages.le state.acceptedMessages = false) :
      Outcome
        { state with
          attemptTimes := recent (reaches gate.rateWindowMs) now state.attemptTimes ++ [now]
          seenRequestIds := (countedRequestId message).toList ++ state.seenRequestIds
          acceptedMessages := state.acceptedMessages.add (ofInt 1)
          nextSequence := state.nextSequence.add (ofInt 1) }
        (.accepted message)

variable {gate state now}

private theorem acceptParsed_outcome {data : StructuredValue} {expected : EmbedEnvelopeExpectation}
    {message : Message} (structuredBytes : Number) (opened : state.closed = false)
    (budget : gate.maxMessagesPerWindow.le
      (ofInt (recent (reaches gate.rateWindowMs) now state.attemptTimes).length) = false)
    (sequence : expected.sequence = state.nextSequence)
    (parsed : gate.parse data expected = some message) :
    Outcome gate state now
      (gate.acceptParsed
        { state with attemptTimes := recent (reaches gate.rateWindowMs) now state.attemptTimes ++ [now] }
        structuredBytes message).1
      (gate.acceptParsed
        { state with attemptTimes := recent (reaches gate.rateWindowMs) now state.attemptTimes ++ [now] }
        structuredBytes message).2 := by
  unfold EmbedInboundGate.acceptParsed
  split
  · exact .refused .invalidState (by decide)
  split
  · exact .refused .oversized (by decide)
  split
  · exact .refused .replayedRequest (by decide)
  rename_i fresh
  split
  · exact .exhausted
  rename_i room
  refine .taken data expected message opened budget sequence parsed ?_ (Bool.eq_false_iff.mpr room)
  intro requestId counted seen
  exact fresh ⟨requestId, counted, seen⟩

variable [DecidableEq Window]

theorem accept_outcome (event : BridgeEvent Window) :
    Outcome gate state now (gate.accept state event now).1 (gate.accept state event now).2 := by
  unfold EmbedInboundGate.accept
  split
  · exact .ignored .closed (by decide)
  rename_i opened
  split
  · exact .ignored .untrustedPeer (by decide)
  split
  · exact .ignored .invalidMessage (by decide)
  split
  · exact .ignored .oversized (by decide)
  rename_i structuredBytes _
  dsimp only
  split
  · exact .limited
  rename_i budget
  split
  · exact .refused .invalidMessage (by decide)
  rename_i message parsed
  exact acceptParsed_outcome structuredBytes (by simpa using opened)
    (Bool.eq_false_iff.mpr budget) rfl parsed

theorem accept_of_closed (event : BridgeEvent Window) (closed : state.closed = true) :
    gate.accept state event now = (state, .rejected .closed) := by
  simp [EmbedInboundGate.accept, closed]

theorem accept_foreign {event : BridgeEvent Window}
    (foreign : isTrustedWindowEvent event gate.expectedSource gate.expectedOrigin = false) :
    (gate.accept state event now).1 = state := by
  unfold EmbedInboundGate.accept
  split
  · rfl
  · simp [foreign]

theorem oneShot_accept_foreign {Parsed : Type} {oneShot : OneShotGate Window}
    {maximumBytes : Number} {parse : StructuredValue → Parse Parsed} {held : OneShotGateState}
    {event : BridgeEvent Window}
    (foreign : isTrustedWindowEvent event oneShot.expectedSource oneShot.expectedOrigin = false) :
    (oneShot.accept maximumBytes parse held event now).1 = held := by
  unfold OneShotGate.accept
  split
  · rfl
  · simp [foreign]

end

section

/-- The times of the `accept` calls, in order. -/
def acceptTimes (calls : List (EmbedGateCall Window)) : List Number :=
  calls.filterMap fun
    | .accept _ now => some now
    | _ => none

def acceptedOf : EmbedGateCall Window × EmbedGateAnswer Message → Option (Message × Number)
  | (.accept _ now, .result (.accepted message)) => some (message, now)
  | _ => none

/-- The messages a run accepted, in order, each with its time. -/
def acceptedMessages (past : List (EmbedGateCall Window × EmbedGateAnswer Message)) :
    List (Message × Number) :=
  past.filterMap acceptedOf

variable (options : EmbedInboundGateOptions Window Message)

/-- A limit that counts: a natural number, or infinity. -/
def limitOf : Option Nat → Number
  | some n => ofInt n
  | none => .infinite false

/-- The options start from an integer and set limits that count. -/
structure Counts (first : Int) (total perWindow : Option Nat) : Prop where
  sequence : options.initialSequence.getD (ofInt 0) = ofInt first
  total : options.gate.maxAcceptedMessages = limitOf total
  perWindow : options.gate.maxMessagesPerWindow = limitOf perWindow

/-- So many steps from the integer on stay within the integers that are told apart. -/
structure Exact (first : Int) (count : Nat) : Prop where
  low : -maxExact ≤ first
  high : first + count ≤ maxExact
  count : (count : Int) ≤ maxExact

def initialRequestIds : List String := options.initialRequestIds.getD []

/-- How the state of a gate stands to the messages accepted so far. -/
structure Tracks (first : Int) (total perWindow : Option Nat)
    (past : List (EmbedGateCall Window × EmbedGateAnswer Message))
    (state : EmbedInboundGateState) : Prop where
  count : state.acceptedMessages = ofInt (acceptedMessages past).length
  nextSequence : state.nextSequence = ofInt (first + (acceptedMessages past).length)
  sequences : (acceptedMessages past).map (fun accepted => SequencedMessage.sequence accepted.1) =
    (List.range (acceptedMessages past).length).map fun n : Nat => ofInt (first + n)
  unique : ((acceptedMessages past).filterMap fun accepted =>
    countedRequestId accepted.1).Nodup
  notInitial : ∀ accepted ∈ acceptedMessages past, ∀ requestId ∈ countedRequestId accepted.1,
    requestId ∉ initialRequestIds options
  seen : state.closed = false → ∀ requestId, requestId ∈ state.seenRequestIds ↔
    requestId ∈ initialRequestIds options ∨
      ∃ accepted ∈ acceptedMessages past, countedRequestId accepted.1 = some requestId
  total : ∀ n ∈ total, (acceptedMessages past).length ≤ n
  bounded : ∀ n ∈ perWindow, Bounded Number.le (reaches options.gate.rateWindowMs) n
    ((acceptedMessages past).map Prod.snd)
  remembered : state.closed = false → ∀ now : Number,
    (∀ time ∈ acceptTimes (past.map Prod.fst), time.le now) →
    (recent (reaches options.gate.rateWindowMs) now ((acceptedMessages past).map Prod.snd)).Sublist
      (recent (reaches options.gate.rateWindowMs) now state.attemptTimes)

variable {options} {first : Int} {total perWindow : Option Nat}
  {past : List (EmbedGateCall Window × EmbedGateAnswer Message)}
  {state next : EmbedInboundGateState}

theorem Exact.mono {count fewer : Nat} (exact : Exact first count) (le : fewer ≤ count) :
    Exact first fewer := by
  obtain ⟨low, high, hcount⟩ := exact
  exact ⟨low, by omega, by omega⟩

omit [SequencedMessage Message] in
theorem accepted_le_accepts (past : List (EmbedGateCall Window × EmbedGateAnswer Message)) :
    (acceptedMessages past).length ≤ (acceptTimes (past.map Prod.fst)).length := by
  induction past with
  | nil => exact Nat.le_refl 0
  | cons answered past ih =>
    obtain ⟨call, answer⟩ := answered
    cases call with
    | accept event now =>
      have htimes : acceptTimes (((EmbedGateCall.accept event now, answer) :: past).map Prod.fst) =
          now :: acceptTimes (past.map Prod.fst) := rfl
      unfold acceptedMessages at *
      rw [htimes, List.length_cons, List.filterMap_cons]
      cases acceptedOf (EmbedGateCall.accept event now, answer) with
      | none => exact ih.trans (Nat.le_succ _)
      | some accepted => exact Nat.succ_le_succ ih
    | establishPeerNonce peerNonce => exact ih
    | destroy => exact ih

theorem forgets_reaches (rateWindowMs : Number) :
    Forgets Number.le (reaches rateWindowMs) :=
  fun _ _ _ order seen => Number.sub_lt_of_le order seen

theorem Tracks.start (counts : Counts options first total perWindow) :
    Tracks options first total perWindow [] options.state where
  count := rfl
  nextSequence := counts.sequence.trans (congrArg ofInt (Int.add_zero first).symm)
  sequences := rfl
  unique := List.nodup_nil
  notInitial := by simp [acceptedMessages]
  seen := by
    intro _ requestId
    simp [acceptedMessages, EmbedInboundGateOptions.state, initialRequestIds]
  total _ _ := Nat.zero_le _
  bounded _ _ := .nil
  remembered := by
    intro _ now _
    exact List.nil_sublist _

theorem Tracks.idle (tracks : Tracks options first total perWindow past state)
    {answered : EmbedGateCall Window × EmbedGateAnswer Message}
    (nothing : acceptedOf answered = none)
    (count : next.acceptedMessages = state.acceptedMessages)
    (sequence : next.nextSequence = state.nextSequence)
    (seen : next.closed = false → state.closed = false ∧
      next.seenRequestIds = state.seenRequestIds)
    (remembered : next.closed = false → ∀ now : Number,
      (∀ time ∈ acceptTimes ((past ++ [answered]).map Prod.fst), time.le now) →
      (recent (reaches options.gate.rateWindowMs) now state.attemptTimes).Sublist
        (recent (reaches options.gate.rateWindowMs) now next.attemptTimes)) :
    Tracks options first total perWindow (past ++ [answered]) next := by
  have same : acceptedMessages (past ++ [answered]) = acceptedMessages past := by
    simp [acceptedMessages, List.filterMap_append, nothing]
  refine ⟨?_, ?_, ?_, ?_, ?_, ?_, ?_, ?_, ?_⟩
  · rw [same, count, tracks.count]
  · rw [same, sequence, tracks.nextSequence]
  · rw [same]
    exact tracks.sequences
  · rw [same]
    exact tracks.unique
  · rw [same]
    exact tracks.notInitial
  · intro opened requestId
    obtain ⟨opened', hseen⟩ := seen opened
    rw [same, hseen]
    exact tracks.seen opened' requestId
  · rw [same]
    exact tracks.total
  · rw [same]
    exact tracks.bounded
  · intro opened now later
    rw [same]
    refine (tracks.remembered (seen opened).1 now ?_).trans (remembered opened now later)
    intro time htime
    apply later
    rw [List.map_append]
    simp only [acceptTimes, List.filterMap_append, List.mem_append] at htime ⊢
    exact .inl htime

private theorem recent_attempt {width now later : Number} (times : List Number)
    (order : now.le later) :
    recent (reaches width) later (recent (reaches width) now times ++ [now]) =
      recent (reaches width) later times ++ recent (reaches width) later [now] := by
  conv_lhs => unfold recent
  rw [List.filter_append]
  exact congrArg (· ++ _) (recent_of_le (forgets_reaches width) order)

omit [SequencedMessage Message] in
private theorem times_le_of_append {call : EmbedGateCall Window}
    {answer : EmbedGateAnswer Message} {event : BridgeEvent Window} {now later : Number}
    (isAccept : call = .accept event now)
    (order : ∀ time ∈ acceptTimes ((past ++ [(call, answer)]).map Prod.fst), time.le later) :
    (∀ time ∈ acceptTimes (past.map Prod.fst), time.le later) ∧ now.le later := by
  subst isAccept
  simp only [List.map_append, List.map_cons, List.map_nil, acceptTimes, List.filterMap_append,
    List.mem_append] at order
  refine ⟨fun time htime => order time (.inl htime), order now (.inr ?_)⟩
  simp

/-- An accepted message is the next in sequence, new, and within both budgets. -/
theorem Tracks.taken (tracks : Tracks options first total perWindow past state)
    (counts : Counts options first total perWindow)
    (exact : Exact first (acceptTimes (past.map Prod.fst)).length)
    {event : BridgeEvent Window} {now : Number} {message : Message}
    (inOrder : ∀ time ∈ acceptTimes (past.map Prod.fst), time.le now)
    (opened : state.closed = false)
    (budget : options.gate.maxMessagesPerWindow.le
      (ofInt (recent (reaches options.gate.rateWindowMs) now state.attemptTimes).length) = false)
    (sequence : SequencedMessage.sequence message = state.nextSequence)
    (fresh : ∀ requestId ∈ countedRequestId message, requestId ∉ state.seenRequestIds)
    (room : options.gate.maxAcceptedMessages.le state.acceptedMessages = false) :
    Tracks options first total perWindow (past ++ [(.accept event now, .result (.accepted message))])
      { state with
        attemptTimes := recent (reaches options.gate.rateWindowMs) now state.attemptTimes ++ [now]
        seenRequestIds := (countedRequestId message).toList ++ state.seenRequestIds
        acceptedMessages := state.acceptedMessages.add (ofInt 1)
        nextSequence := state.nextSequence.add (ofInt 1) } := by
  have more : acceptedMessages (past ++ [(.accept event now, .result (.accepted message))]) =
      acceptedMessages past ++ [(message, now)] := by
    simp [acceptedMessages, List.filterMap_append, acceptedOf]
  have unseen : ∀ requestId ∈ countedRequestId message,
      requestId ∉ initialRequestIds options ∧
        ∀ accepted ∈ acceptedMessages past, countedRequestId accepted.1 ≠ some requestId := by
    intro requestId counted
    have hunseen := fresh requestId counted
    rw [tracks.seen opened, not_or] at hunseen
    exact ⟨hunseen.1, fun accepted haccepted same => hunseen.2 ⟨accepted, haccepted, same⟩⟩
  obtain ⟨low, high, hcount⟩ := exact.mono (accepted_le_accepts past)
  refine ⟨?_, ?_, ?_, ?_, ?_, ?_, ?_, ?_, ?_⟩
  · rw [more, List.length_append, List.length_singleton]
    dsimp only
    rw [tracks.count, ofInt_succ (by unfold maxExact; omega) hcount, Nat.cast_succ]
  · rw [more, List.length_append, List.length_singleton]
    dsimp only
    rw [tracks.nextSequence, ofInt_succ (by omega) high, Nat.cast_succ, add_assoc]
  · rw [more, List.map_append, tracks.sequences, List.length_append, List.length_singleton,
      List.range_succ, List.map_append]
    simp [sequence, tracks.nextSequence]
  · rw [more, List.filterMap_append, List.nodup_append]
    refine ⟨tracks.unique, ?_, ?_⟩
    · cases hid : countedRequestId message <;> simp [hid]
    · intro requestId earlier other last
      simp only [List.mem_filterMap, List.mem_singleton] at earlier last
      obtain ⟨accepted, haccepted, hid⟩ := earlier
      obtain ⟨_, rfl, hother⟩ := last
      rintro rfl
      exact (unseen requestId hother).2 accepted haccepted hid
  · intro accepted haccepted requestId counted
    rw [more, List.mem_append, List.mem_singleton] at haccepted
    rcases haccepted with haccepted | rfl
    · exact tracks.notInitial accepted haccepted requestId counted
    · exact (unseen requestId counted).1
  · intro _ requestId
    rw [more]
    simp only [List.mem_append, List.mem_singleton, Option.mem_toList, tracks.seen opened]
    constructor
    · rintro (counted | initial | ⟨accepted, haccepted, hid⟩)
      · exact .inr ⟨(message, now), .inr rfl, counted⟩
      · exact .inl initial
      · exact .inr ⟨accepted, .inl haccepted, hid⟩
    · rintro (initial | ⟨accepted, haccepted | rfl, hid⟩)
      · exact .inr (.inl initial)
      · exact .inr (.inr ⟨accepted, haccepted, hid⟩)
      · exact .inl hid
  · rintro n rfl
    rw [counts.total, tracks.count] at room
    rw [more, List.length_append, List.length_singleton]
    exact Int.ofNat_lt.mp (lt_of_ofInt room)
  · rintro n rfl
    rw [counts.perWindow] at budget
    have fewer := (tracks.remembered opened now inOrder).length_le
    rw [more, List.map_append]
    exact (tracks.bounded n rfl).append (forgets_reaches _)
      (lt_of_le_of_lt fewer (Int.ofNat_lt.mp (lt_of_ofInt budget)))
  · intro _ later order
    obtain ⟨past_le, now_le⟩ := times_le_of_append rfl order
    rw [more, List.map_append, recent_attempt _ now_le]
    unfold recent
    rw [List.filter_append]
    exact (tracks.remembered opened later past_le).append_right _

private theorem acceptTimes_append (calls more : List (EmbedGateCall Window)) :
    acceptTimes (calls ++ more) = acceptTimes calls ++ acceptTimes more :=
  List.filterMap_append

variable [DecidableEq Window]

/-- The whole run of a gate from its construction on. -/
def gateRun (options : EmbedInboundGateOptions Window Message)
    (calls : List (EmbedGateCall Window)) :
    List (EmbedGateCall Window × EmbedGateAnswer Message) :=
  answers options.gate.call options.state calls

theorem Tracks.call (tracks : Tracks options first total perWindow past state)
    (counts : Counts options first total perWindow)
    (parseKeepsSequence : ∀ value expected message, options.parse value expected = some message →
      SequencedMessage.sequence message = expected.sequence)
    (call : EmbedGateCall Window)
    (inOrder : ∀ event now, call = .accept event now →
      ∀ time ∈ acceptTimes (past.map Prod.fst), time.le now)
    (exact : Exact first (acceptTimes (past.map Prod.fst)).length) :
    Tracks options first total perWindow (past ++ [(call, (options.gate.call state call).2)])
      (options.gate.call state call).1 := by
  cases call with
  | destroy =>
    refine tracks.idle rfl rfl rfl ?_ ?_ <;> intro opened <;> cases opened
  | establishPeerNonce peerNonce =>
    simp only [EmbedInboundGate.call, EmbedInboundGateState.establishPeerNonce]
    split
    · refine tracks.idle rfl rfl rfl ?_ ?_ <;> intro opened <;> cases opened
    · exact tracks.idle rfl rfl rfl (fun opened => ⟨opened, rfl⟩)
        fun _ now _ => List.Sublist.refl _
  | accept event now =>
    have past_le := inOrder event now rfl
    simp only [EmbedInboundGate.call]
    generalize hnext : (options.gate.accept state event now).1 = next
    generalize hresult : (options.gate.accept state event now).2 = result
    have outcome : Outcome options.gate state now next result := by
      rw [← hnext, ← hresult]
      exact accept_outcome event
    cases outcome with
    | ignored reason lasting =>
      exact tracks.idle rfl rfl rfl (fun opened => ⟨opened, rfl⟩)
        fun _ now _ => List.Sublist.refl _
    | limited =>
      refine tracks.idle rfl rfl rfl (fun opened => ⟨opened, rfl⟩) ?_
      intro _ later order
      rw [recent_of_le (forgets_reaches _) (times_le_of_append rfl order).2]
    | refused reason lasting =>
      refine tracks.idle rfl rfl rfl (fun opened => ⟨opened, rfl⟩) ?_
      intro _ later order
      rw [recent_attempt _ (times_le_of_append rfl order).2]
      exact List.sublist_append_left _ _
    | exhausted =>
      refine tracks.idle rfl rfl rfl ?_ ?_ <;> intro opened <;> cases opened
    | taken data expected message opened budget sequence parsed fresh room =>
      have inSequence := (parseKeepsSequence data expected message parsed).trans sequence
      exact tracks.taken counts exact past_le opened budget inSequence fresh room

theorem tracks_run (counts : Counts options first total perWindow)
    (parseKeepsSequence : ∀ value expected message, options.parse value expected = some message →
      SequencedMessage.sequence message = expected.sequence)
    {calls : List (EmbedGateCall Window)}
    (exact : Exact first (acceptTimes calls).length)
    (nonDecreasing : (acceptTimes calls).Pairwise fun a b => a.le b) :
    Tracks options first total perWindow (gateRun options calls)
      (after options.gate.call options.state calls) := by
  have run := after_induction options.gate.call options.state
    (motive := fun past state =>
      (acceptTimes (past.map Prod.fst)).Pairwise (fun a b => a.le b) →
        Exact first (acceptTimes (past.map Prod.fst)).length →
        Tracks options first total perWindow past state)
    (fun _ _ => Tracks.start counts) ?_ calls
  · rw [answers_map_fst] at run
    exact run nonDecreasing exact
  · intro past state call tracks order exact
    rw [List.map_append, acceptTimes_append, List.pairwise_append] at order
    rw [List.map_append, acceptTimes_append, List.length_append] at exact
    have before := exact.mono (Nat.le_add_right _ _)
    refine (tracks order.1 before).call counts parseKeepsSequence call ?_ before
    rintro event now rfl time htime
    exact order.2.2 time htime now (by simp [acceptTimes])

private theorem closed_run (gate : EmbedInboundGate Window Message)
    {state : EmbedInboundGateState} (closed : state.closed = true)
    (calls : List (EmbedGateCall Window)) :
    acceptedMessages (answers gate.call state calls) = [] := by
  induction calls generalizing state with
  | nil => rfl
  | cons call calls ih =>
    have hcall : acceptedOf (call, (gate.call state call).2) = none ∧
        (gate.call state call).1.closed = true := by
      cases call with
      | destroy => exact ⟨rfl, rfl⟩
      | establishPeerNonce peerNonce =>
        refine ⟨rfl, ?_⟩
        simp [EmbedInboundGate.call, EmbedInboundGateState.establishPeerNonce, closed,
          EmbedInboundGateState.destroy]
      | accept event now =>
        simp [EmbedInboundGate.call, accept_of_closed event closed, acceptedOf, closed]
    have rest := ih hcall.2
    unfold acceptedMessages at rest ⊢
    simp only [answers]
    rw [List.filterMap_cons, hcall.1]
    exact rest

def Closes (answered : EmbedGateCall Window × EmbedGateAnswer Message) : Prop :=
  answered.1 = .destroy ∨ answered.2 = .result (.rejected .channelExhausted)

private theorem closed_of_closes {gate : EmbedInboundGate Window Message}
    {state : EmbedInboundGateState} {call : EmbedGateCall Window}
    (closes : Closes (call, (gate.call state call).2)) :
    (gate.call state call).1.closed = true := by
  rcases closes with isDestroy | exhausted
  · have isDestroy' : call = .destroy := isDestroy
    rw [isDestroy']
    rfl
  · cases call with
    | destroy => rfl
    | establishPeerNonce peerNonce =>
      simp only [EmbedInboundGate.call] at exhausted
      split at exhausted <;> cases exhausted
    | accept event now =>
      have exhausted' : (gate.accept state event now).2 = .rejected .channelExhausted :=
        EmbedGateAnswer.result.inj exhausted
      have outcome : Outcome gate state now (gate.accept state event now).1
          (gate.accept state event now).2 := accept_outcome event
      rw [exhausted'] at outcome
      simp only [EmbedInboundGate.call]
      generalize (gate.accept state event now).1 = next at outcome
      cases outcome with
      | ignored reason lasting => exact absurd rfl lasting
      | refused reason lasting => exact absurd rfl lasting
      | exhausted => rfl

/-- Along any run whose times do not decrease, the accepted messages are consecutive from the
initial sequence on, carry no request ID twice, stay within the total and within every window,
and end with the gate. -/
theorem embedInboundGate_safe (options : EmbedInboundGateOptions Window Message)
    (counts : Counts options first total perWindow)
    (parseKeepsSequence : ∀ value expected message, options.parse value expected = some message →
      SequencedMessage.sequence message = expected.sequence)
    (calls : List (EmbedGateCall Window))
    (exact : Exact first (acceptTimes calls).length)
    (nonDecreasing : (acceptTimes calls).Pairwise fun a b => a.le b) :
    ((acceptedMessages (gateRun options calls)).map
        (fun accepted => SequencedMessage.sequence accepted.1) =
      (List.range (acceptedMessages (gateRun options calls)).length).map
        fun n : Nat => ofInt (first + n)) ∧
    ((acceptedMessages (gateRun options calls)).filterMap
        fun accepted => countedRequestId accepted.1).Nodup ∧
    (∀ accepted ∈ acceptedMessages (gateRun options calls),
      ∀ requestId ∈ countedRequestId accepted.1, requestId ∉ initialRequestIds options) ∧
    (∀ n ∈ total, (acceptedMessages (gateRun options calls)).length ≤ n) ∧
    (∀ n ∈ perWindow, ∀ t : Number, ((acceptedMessages (gateRun options calls)).filter
        fun accepted => (t.sub options.gate.rateWindowMs).lt accepted.2 &&
          accepted.2.le t).length ≤ n) ∧
    ∀ earlier answered later, gateRun options calls = earlier ++ answered :: later →
      Closes answered → acceptedMessages later = [] := by
  have tracks := tracks_run counts parseKeepsSequence exact nonDecreasing
  refine ⟨tracks.sequences, tracks.unique, tracks.notInitial, tracks.total, ?_, ?_⟩
  · intro n hn t
    have bound := tracks.bounded n hn t
    unfold within at bound
    rwa [List.filter_map, List.length_map] at bound
  · intro earlier answered later split closes
    have hcalls : calls = earlier.map Prod.fst ++ answered.1 :: later.map Prod.fst := by
      have := congrArg (List.map Prod.fst) split
      rwa [gateRun, answers_map_fst, List.map_append, List.map_cons] at this
    rw [gateRun, hcalls, answers_append] at split
    have lengths : (answers options.gate.call options.state (earlier.map Prod.fst)).length =
        earlier.length := by
      have := congrArg List.length
        (answers_map_fst options.gate.call options.state (earlier.map Prod.fst))
      simpa using this
    obtain ⟨-, tails⟩ := List.append_inj split lengths
    simp only [answers, List.cons.injEq] at tails
    obtain ⟨hanswered, hlater⟩ := tails
    rw [← hanswered] at closes
    rw [← hlater]
    exact closed_run options.gate (closed_of_closes closes) _

end

private theorem frameToHost_keeps_sequence (expectedFrameWindow : Window)
    (expectedFrameOrigin channelId parentNonce : String) (value : StructuredValue)
    (expected : EmbedEnvelopeExpectation) (message : FrameToHostMessage)
    (parsed : (createFrameToHostGate expectedFrameWindow expectedFrameOrigin channelId
      parentNonce).parse value expected = some message) :
    SequencedMessage.sequence message = expected.sequence := by
  simp only [createFrameToHostGate] at parsed
  cases hparse : parseFrameToHostMessage value expected with
  | error e =>
    rw [hparse] at parsed
    cases parsed
  | ok given =>
    rw [hparse] at parsed
    cases parsed
    exact (parseFrameToHostMessage_eq_ok hparse).1

def sampleNonce : String := "aaaaaaaaaaaaaaaaaaaaaaaaaaaaaaaaaaaaaaaaaaa"

def sampleFrameOptions : EmbedInboundGateOptions Unit FrameToHostMessage :=
  createFrameToHostGate () "https://frame.example" sampleNonce sampleNonce

def sampleMessage (sequence type : String) (payload : List (String × StructuredValue)) :
    BridgeEvent Unit where
  data := .record
    [("protocol", .text embedProtocol), ("version", .number "1"),
      ("channelId", .text sampleNonce), ("sequence", .number sequence),
      ("peerNonce", .text sampleNonce), ("type", .text type), ("payload", .record payload)]
  origin := "https://frame.example"
  source := some ()
  ports := 0

def sampleCalls : List (EmbedGateCall Unit) :=
  [.accept (sampleMessage "0" "frame.ready"
      [("frameNonce", .text sampleNonce), ("acceptedVersion", .number "1"),
        ("capabilities", .array true (embedCapabilities.map .text))]) (ofInt 0),
    .accept (sampleMessage "1" "frame.unread" [("hasUnread", .boolean true)]) (ofInt 5),
    .destroy,
    .accept (sampleMessage "2" "frame.closed" []) (ofInt 9)]

/-- The sample channel takes its two messages, in sequence, and none after `destroy`. -/
theorem sampleCalls_safe :
    (acceptedMessages (gateRun sampleFrameOptions sampleCalls)).length = 2 ∧
      (acceptedMessages (gateRun sampleFrameOptions sampleCalls)).map
          (fun accepted => SequencedMessage.sequence accepted.1) =
        (List.range (acceptedMessages (gateRun sampleFrameOptions sampleCalls)).length).map
          fun n : Nat => ofInt (0 + n) := by
  have counts : Counts sampleFrameOptions 0 (some 256) (some 20) := ⟨rfl, rfl, rfl⟩
  exact ⟨by decide +kernel,
    (embedInboundGate_safe sampleFrameOptions counts
      (frameToHost_keeps_sequence () "https://frame.example" sampleNonce sampleNonce)
      sampleCalls ⟨by decide, by decide, by decide⟩ (by decide +kernel)).1⟩

/-- A gate whose parser takes every message as one of the expected sequence. -/
def readyOptions (initialSequence : Option Number) (requestId : Option String)
    (maxMessagesPerWindow : Option Number) : EmbedInboundGateOptions Unit HostToFrameMessage where
  expectedSource := ()
  expectedOrigin := "https://host.example"
  channelId := sampleNonce
  initialPeerNonce := none
  initialType := none
  initialSequence := initialSequence
  initialRequestIds := none
  parse := fun _ expected => some
    { envelope :=
        { channelId := expected.channelId
          sequence := expected.sequence
          peerNonce := expected.peerNonce
          requestId := requestId }
      payload := .destroy }
  maxMessageBytes := none
  maxOperationalMessageBytes := none
  maxMessagesPerWindow := maxMessagesPerWindow
  rateWindowMs := none
  maxAcceptedMessages := none

/-- So many messages of the peer at one time. -/
def readyCalls (count : Nat) : List (EmbedGateCall Unit) :=
  let event : BridgeEvent Unit :=
    { data := .null
      origin := "https://host.example"
      source := some ()
      ports := 0 }
  List.replicate count (.accept event (ofInt 0))

def readyRun (initialSequence : Option Number) (requestId : Option String)
    (maxMessagesPerWindow : Option Number) (count : Nat) : List (HostToFrameMessage × Number) :=
  acceptedMessages
    (gateRun (readyOptions initialSequence requestId maxMessagesPerWindow) (readyCalls count))

/-- The gate does not count the empty request ID as one, repeats the sequence `2 ^ 53`, and lets
three messages through under a limit of two and a half. -/
theorem unvalidated_options_break_gate :
    (∀ initialSequence requestId maxMessagesPerWindow value expected message,
      (readyOptions initialSequence requestId maxMessagesPerWindow).parse value expected =
        some message → SequencedMessage.sequence message = expected.sequence) ∧
    (∀ count, (acceptTimes (readyCalls count)).Pairwise fun a b => a.le b) ∧
    ¬ ((readyRun none (some "") none 2).filterMap
        fun accepted => SequencedMessage.requestId accepted.1).Nodup ∧
    (readyRun (some (ofInt (2 ^ 53))) none none 2).map
        (fun accepted => SequencedMessage.sequence accepted.1) =
      [ofInt (2 ^ 53), ofInt (2 ^ 53)] ∧
    (readyRun none none (some (.finite (5 * 2 ^ 1073))) 3).length = 3 := by
  refine ⟨?_, ?_, by decide +kernel, by decide +kernel, by decide +kernel⟩
  · rintro initialSequence requestId maxMessagesPerWindow value expected message ⟨⟩
    rfl
  · intro count
    have times : acceptTimes (readyCalls count) = List.replicate count (ofInt 0) := by
      unfold readyCalls acceptTimes
      rw [List.filterMap_replicate]
    rw [times]
    exact List.pairwise_replicate.mpr (Or.inr (by decide +kernel))

section

variable {Parsed : Type} [DecidableEq Window]

/-- Everything but the events of another window or origin. -/
def peerCall (expectedSource : Window) (expectedOrigin : String) : EmbedGateCall Window → Bool
  | .accept event _ => isTrustedWindowEvent event expectedSource expectedOrigin
  | _ => true

def peerOneShotCall (gate : OneShotGate Window) : OneShotCall Window → Bool
  | .accept event _ => isTrustedWindowEvent event gate.expectedSource gate.expectedOrigin
  | .destroy => true

private theorem oneShot_purge (gate : OneShotGate Window) (maximumBytes : Number)
    (parse : StructuredValue → Parse Parsed) (state : OneShotGateState)
    (calls : List (OneShotCall Window)) :
    answers (oneShotCall (gate.accept maximumBytes parse)) state
        (calls.filter (peerOneShotCall gate)) =
      (answers (oneShotCall (gate.accept maximumBytes parse)) state calls).filter
        fun answered => peerOneShotCall gate answered.1 := by
  apply answers_purge
  rintro held (⟨event, now⟩ | _) foreign
  · exact oneShot_accept_foreign foreign
  · cases foreign

/-- Leaving out the events of every other window or origin changes no remaining answer, for
each of the three gates, from any state and for any calls. -/
theorem gates_ignore_foreign :
    (∀ (gate : EmbedInboundGate Window Message) (state : EmbedInboundGateState)
      (calls : List (EmbedGateCall Window)),
      answers gate.call state
          (calls.filter (peerCall gate.expectedSource gate.expectedOrigin)) =
        (answers gate.call state calls).filter
          fun answered => peerCall gate.expectedSource gate.expectedOrigin answered.1) ∧
    (∀ (gate : EmbedHostInitializationGate Window) (state : OneShotGateState)
      (calls : List (OneShotCall Window)),
      answers (oneShotCall gate.accept) state
          (calls.filter (peerOneShotCall gate.toOneShotGate)) =
        (answers (oneShotCall gate.accept) state calls).filter
          fun answered => peerOneShotCall gate.toOneShotGate answered.1) ∧
    ∀ (gate : EmbedFrameBootstrapGate Window) (state : OneShotGateState)
      (calls : List (OneShotCall Window)),
      answers (oneShotCall gate.accept) state
          (calls.filter (peerOneShotCall gate.toOneShotGate)) =
        (answers (oneShotCall gate.accept) state calls).filter
          fun answered => peerOneShotCall gate.toOneShotGate answered.1 := by
  refine ⟨?_, ?_, ?_⟩
  · intro gate state calls
    apply answers_purge
    rintro held (⟨event, now⟩ | peerNonce | _) foreign
    · exact accept_foreign foreign
    · cases foreign
    · cases foreign
  · intro gate state calls
    exact oneShot_purge gate.toOneShotGate _ _ state calls
  · intro gate state calls
    exact oneShot_purge gate.toOneShotGate _ _ state calls

end

end JbChat.Embed.GateSafety
