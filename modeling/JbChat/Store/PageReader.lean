/- source: src/production/storage/conversationPageReader.ts
   digest: Pages of a conversation's log, and which of its envelopes are on one. -/

import JbChat.Store.Tables

set_option autoImplicit false

namespace JbChat.Store.PageReader

open Foundation.HashTrace Foundation.Transaction Delivery.EnvelopeLog Tables

section

structure ConversationPageReadInput where
  conversationId : String
  installationId : String
  afterPosition : Option Nat
  maxEvents : Nat
  maxSerializedBytes : Nat

structure ConversationPageEvent where
  position : Nat
  envelopeId : String
  envelopeClass : EnvelopeClass
  contentType : EnvelopeContentType
  envelopeBytes : Nat
  headHash : Bytes
  receivedAt : String
deriving DecidableEq

structure ConversationPageSnapshot where
  position : Nat
  generation : Nat
  releaseProfileId : String
  etag : String
  epoch : Nat
  rosterVersion : Nat
  confirmedTranscriptHash : Bytes
  policyHeadId : String
  policyHeadSequence : Nat
  policyHeadHash : Bytes
  policyDeliveryLogPosition : Nat
deriving DecidableEq

inductive ConversationPageReadResult where
  | page (events : List ConversationPageEvent) (nextPosition : Nat) (hasMore : Bool)
      (snapshot : ConversationPageSnapshot)
  | historyGone (nextRequiredPosition : Nat)
  | notAMember

variable (db : DeliveryDb)

/-- The stored projection at a position. -/
def snapshotAt (conversationId : String) (position : Nat) : Option ConversationPageSnapshot :=
  (onlyRow (db.pageEnds.filter fun row => decide (
    row.conversation.conversationId = conversationId ∧ row.position = position))).map fun row =>
    { position := row.position
      generation := row.conversation.generation
      releaseProfileId := row.conversation.releaseProfileId
      etag := row.conversation.etag
      epoch := row.conversation.epoch
      rosterVersion := row.conversation.rosterVersion
      confirmedTranscriptHash := row.conversation.confirmedTranscriptHash
      policyHeadId := row.policyHead.policyHeadId
      policyHeadSequence := row.policyHead.policyHeadSequence
      policyHeadHash := row.policyHead.policyHeadHash
      policyDeliveryLogPosition := row.policyHead.deliveryLogPosition }

def readerMembership (conversationId installationId : String) : Option MembershipRow :=
  onlyRow (db.memberships.filter fun row => decide (row.conversationId = conversationId ∧
    row.installationId = installationId))

/-- The position behind which the page starts. -/
def anchorOf (membership : MembershipRow) : Option Nat → Int
  | none => (membership.joinedPosition : Int) - 1
  | some position => position

/-- The envelopes from the anchor to the end of the window, in their order. -/
def visibleRows (conversationId : String) (anchor : Int) (removedCap : Option Nat) :
    List EnvelopeRow :=
  (db.envelopes.filter fun row => decide (row.conversationId = conversationId ∧
    anchor < (row.position : Int) ∧ row.position ≤ removedCap.getD 9223372036854775807)).insertionSort
      fun a b => a.position ≤ b.position

def eventOf (row : EnvelopeRow) : ConversationPageEvent where
  position := row.position
  envelopeId := row.envelopeId
  envelopeClass := row.envelopeClass
  contentType := row.contentType
  envelopeBytes := row.envelopeBytes.length
  headHash := row.headHash
  receivedAt := row.receivedAt

/-- The loop over the candidates; an envelope is never split, and the first one always fits. -/
def collectEvents (maxSerializedBytes : Nat) :
    List ConversationPageEvent → Nat → List EnvelopeRow → List ConversationPageEvent × Bool
  | events, _, [] => (events, false)
  | events, accountedBytes, row :: rows =>
    if 0 < events.length ∧ accountedBytes + row.envelopeBytes.length > maxSerializedBytes then
      (events, true)
    else
      collectEvents maxSerializedBytes (events ++ [eventOf row])
        (accountedBytes + row.envelopeBytes.length) rows

def readPage (input : ConversationPageReadInput) : ConversationPageReadResult :=
  match readerMembership db input.conversationId input.installationId with
  | none => .notAMember
  | some membership =>
    let joined := membership.joinedPosition
    let candidates := (visibleRows db input.conversationId (anchorOf membership input.afterPosition)
      membership.removedPosition).take (input.maxEvents + 1)
    let (events, split) := collectEvents input.maxSerializedBytes [] 0
      (candidates.take input.maxEvents)
    match events.getLast? with
    | none =>
      match input.afterPosition with
      | none => .historyGone joined
      | some position =>
        match snapshotAt db input.conversationId position with
        | none => .historyGone joined
        | some snapshot => .page [] position false snapshot
    | some last =>
      match snapshotAt db input.conversationId last.position with
      | none => .historyGone joined
      | some snapshot =>
        .page events last.position (decide (candidates.length > input.maxEvents) || split)
          snapshot

end

def serializedBytes (rows : List EnvelopeRow) : Nat :=
  (rows.map fun row => row.envelopeBytes.length).sum

theorem collectEvents_mem {maxSerializedBytes accountedBytes : Nat} {rows : List EnvelopeRow}
    {events : List ConversationPageEvent} {event : ConversationPageEvent}
    (h : event ∈ (collectEvents maxSerializedBytes events accountedBytes rows).1) :
    event ∈ events ∨ ∃ row ∈ rows, event = eventOf row := by
  induction rows generalizing events accountedBytes with
  | nil => exact Or.inl h
  | cons row rows ih =>
    unfold collectEvents at h
    split at h
    · exact Or.inl h
    · rcases ih h with hbefore | ⟨found, hfound, hevent⟩
      · rcases List.mem_append.mp hbefore with hearlier | hnew
        · exact Or.inl hearlier
        · exact Or.inr ⟨row, List.mem_cons_self, List.mem_singleton.mp hnew⟩
      · exact Or.inr ⟨found, List.mem_cons_of_mem _ hfound, hevent⟩

theorem readPage_events {db : DeliveryDb} {input : ConversationPageReadInput}
    {events : List ConversationPageEvent} {nextPosition : Nat} {hasMore : Bool}
    {snapshot : ConversationPageSnapshot}
    (h : readPage db input = .page events nextPosition hasMore snapshot) :
    ∃ membership, readerMembership db input.conversationId input.installationId = some membership ∧
      ∀ event ∈ events, ∃ row ∈ visibleRows db input.conversationId
        (anchorOf membership input.afterPosition) membership.removedPosition,
          event = eventOf row := by
  unfold readPage at h
  split at h
  · cases h
  · rename_i membership hmembership
    refine ⟨membership, hmembership, ?_⟩
    dsimp only at h
    have hevents : events = [] ∨ events = (collectEvents input.maxSerializedBytes [] 0
        (((visibleRows db input.conversationId (anchorOf membership input.afterPosition)
          membership.removedPosition).take (input.maxEvents + 1)).take input.maxEvents)).1 := by
      split at h
      · split at h
        · cases h
        · split at h
          · cases h
          · exact Or.inl (ConversationPageReadResult.page.inj h).1.symm
      · split at h
        · cases h
        · exact Or.inr (ConversationPageReadResult.page.inj h).1.symm
    rcases hevents with rfl | rfl
    · intro event hevent
      cases hevent
    · intro event hevent
      rcases collectEvents_mem hevent with hnone | ⟨row, hrow, hsame⟩
      · cases hnone
      · exact ⟨row, List.mem_of_mem_take (List.mem_of_mem_take hrow), hsame⟩

theorem mem_visibleRows {db : DeliveryDb} {conversationId : String} {anchor : Int}
    {removedCap : Option Nat} {row : EnvelopeRow}
    (h : row ∈ visibleRows db conversationId anchor removedCap) :
    row ∈ db.envelopes ∧ row.conversationId = conversationId ∧ anchor < (row.position : Int) ∧
      ∀ cap ∈ removedCap, row.position ≤ cap := by
  obtain ⟨hrow, hselected⟩ := List.mem_filter.mp ((List.mem_insertionSort _).mp h)
  obtain ⟨hconversation, hanchor, hcap⟩ := of_decide_eq_true hselected
  refine ⟨hrow, hconversation, hanchor, ?_⟩
  rintro cap hsome
  rw [Option.mem_def.mp hsome] at hcap
  exact hcap

end JbChat.Store.PageReader
