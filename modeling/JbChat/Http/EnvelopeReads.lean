/- source: src/production/http/messagingHttp.ts, src/production/delivery/conversationCursorCodec.ts
   digest: The two routes that return envelopes, and when they stay inside the reader's periods. -/

import JbChat.Store.MembershipPeriods
import JbChat.Store.PageReader

set_option autoImplicit false

namespace JbChat.Http.EnvelopeReads

open Foundation.HashTrace Foundation.Transaction Delivery.Instants Delivery.InstantOrder
open Delivery.ValueObjects Delivery.EnvelopeLog Store.Documents Store.Tables Store.Provisioning
open Store.LogWriter Store.MembershipIntents Store.MembershipPeriods Store.LogOrder
open Store.MembershipSafety Store.RotationSafety Store.PageReader

section

def pageMaxEvents : Nat := 100

def pageMaxSerializedBytes : Nat := 512 * 1024

def cursorTtlMilliseconds : Int := 24 * 60 * 60 * 1000

structure Session where
  accountId : String
  installationId : String

structure CursorContext where
  realmId : String
  accountId : String
  installationId : String
  conversationId : String
deriving DecidableEq

structure CursorClaims where
  realmId : String
  installationId : String
  conversationId : String
  lastReturnedPosition : Nat
  issuedAt : String
  expiresAt : String
  keyId : String
deriving DecidableEq

/-- A token with the context it is bound to. -/
structure SealedCursor where
  context : CursorContext
  claims : CursorClaims
deriving DecidableEq

/-- The claims of a token that was issued under the same key and for the same context. -/
def decodeCursor (keyId : String) (issued : List SealedCursor) (context : CursorContext)
    (cursor : SealedCursor) : Option CursorClaims :=
  if cursor ∈ issued ∧ cursor.context = context ∧ cursor.claims.keyId = keyId ∧
      cursor.claims.realmId = context.realmId ∧
      cursor.claims.conversationId = context.conversationId ∧
      cursor.claims.installationId = context.installationId then some cursor.claims
  else none

/-- The row that `readEnvelope` returns. -/
structure EnvelopeBody where
  conversationId : String
  envelopeId : String
  position : Nat
  envelopeClass : EnvelopeClass
  contentType : EnvelopeContentType
  sender : EnvelopeSender
  envelope : Bytes
deriving DecidableEq

inductive ReadAnswer where
  | notFound
  | problem (status : Nat) (code : String)
  | page (events : List ConversationPageEvent) (hasMore : Bool)
      (snapshot : ConversationPageSnapshot) (nextCursor : SealedCursor)
  | envelope (body : EnvelopeBody)
deriving DecidableEq

def ReadAnswer.positions : ReadAnswer → List Nat
  | .page events _ _ _ => events.map ConversationPageEvent.position
  | .envelope body => [body.position]
  | _ => []

structure EventsRequest where
  session : Option Session
  conversationId : String
  cursor : Option SealedCursor
  now : String

structure EnvelopeRequest where
  session : Option Session
  conversationId : String
  envelopeId : String

/-- The tables, the periods of the members and the cursors that were issued. -/
structure World extends Ledger where
  issued : List SealedCursor

variable (keyId : String) (w : World)

def contextOf (session : Session) (conversation : ConversationRow) : CursorContext where
  realmId := conversation.realmId
  accountId := session.accountId
  installationId := session.installationId
  conversationId := conversation.conversationId

/-- The position of a request's cursor, if it has one. -/
def afterPosition (context : CursorContext) (now : String) :
    Option SealedCursor → Except ReadAnswer (Option Nat)
  | none => .ok none
  | some cursor =>
    match decodeCursor keyId w.issued context cursor with
    | none => .error (.problem 400 "invalid_cursor")
    | some claims =>
      if claims.expiresAt ≤ now then .error (.problem 400 "cursor_expired")
      else .ok (some claims.lastReturnedPosition)

def pageInput (session : Session) (conversationId : String) (position : Option Nat) :
    ConversationPageReadInput where
  conversationId := conversationId
  installationId := session.installationId
  afterPosition := position
  maxEvents := pageMaxEvents
  maxSerializedBytes := pageMaxSerializedBytes

def pageAnswer (context : CursorContext) (now : String) :
    ConversationPageReadResult → Except Failure ReadAnswer
  | .notAMember => .ok .notFound
  | .historyGone _ => .ok (.problem 410 "history_gone")
  | .page events nextPosition hasMore snapshot => do
    let expiresAt ← instantAfter now cursorTtlMilliseconds
    .ok (.page events hasMore snapshot
      { context := context
        claims :=
          { realmId := context.realmId
            installationId := context.installationId
            conversationId := context.conversationId
            lastReturnedPosition := nextPosition
            issuedAt := now
            expiresAt := expiresAt
            keyId := keyId } })

def readConversationEvents (request : EventsRequest) : Except Failure ReadAnswer :=
  if ¬ isLowercaseUuid request.conversationId then .ok .notFound
  else
    match request.session with
    | none => .ok (.problem 401 "session_invalid")
    | some session =>
      match onlyRow (w.db.conversations.filter (isConversation request.conversationId)) with
      | none => .ok .notFound
      | some conversation =>
        let context := contextOf session conversation
        match afterPosition keyId w context request.now request.cursor with
        | .error answer => .ok answer
        | .ok position => pageAnswer keyId context request.now
            (readPage w.db (pageInput session request.conversationId position))

/-- The rows of the conversation's members joined with its envelopes. -/
def readEnvelope (request : EnvelopeRequest) : ReadAnswer :=
  if ¬ (isLowercaseUuid request.conversationId ∧ isLowercaseUuid request.envelopeId) then .notFound
  else
    match request.session with
    | none => .problem 401 "session_invalid"
    | some session =>
      match onlyRow ((w.db.memberships.filter fun row => decide (
          row.conversationId = request.conversationId ∧
          row.installationId = session.installationId)).flatMap fun _ =>
            w.db.envelopes.filter fun row => decide (
              row.conversationId = request.conversationId ∧
              row.envelopeId = request.envelopeId)) with
      | none => .notFound
      | some row => .envelope
          { conversationId := request.conversationId
            envelopeId := request.envelopeId
            position := row.position
            envelopeClass := row.envelopeClass
            contentType := row.contentType
            sender := row.sender
            envelope := row.envelopeBytes }

inductive Request where
  | events (request : EventsRequest)
  | envelope (request : EnvelopeRequest)

def Request.session : Request → Option Session
  | .events request => request.session
  | .envelope request => request.session

def Request.conversationId : Request → String
  | .events request => request.conversationId
  | .envelope request => request.conversationId

def answer : Request → Except Failure ReadAnswer
  | .events request => readConversationEvents keyId w request
  | .envelope request => .ok (readEnvelope w request)

inductive Event where
  | write (call : LogCall)
  | read (request : Request)

variable (H : HashFunction) (keys : AuthorityDerivations) (checks : DocumentChecks)

/-- A page that is returned issues the cursor on it. -/
def World.step : Event → World
  | .write call => { w with toLedger := w.toLedger.call H keys checks call }
  | .read request =>
    match answer keyId w request with
    | .ok (.page _ _ _ cursor) => { w with issued := w.issued ++ [cursor] }
    | _ => w

def World.run (events : List Event) : World := events.foldl (fun w => w.step keyId H keys checks) w

end

section

variable {membership : MembershipRow} {position : Nat} {request : EventsRequest}

/-- The installation of the seat was a member at the position. -/
def World.had (w : World) (seat : Seat) (position : Nat) : Prop :=
  ∃ period ∈ w.periods, period.seat = seat ∧ period.covers position

def Request.seat (request : Request) (session : Session) : Seat :=
  ⟨request.conversationId, session.installationId⟩

/-- Every envelope in the answer to a request was stored while its reader was a member. -/
def ReadsInside (keyId : String) (w : World) (request : Request) : Prop :=
  ∀ result, answer keyId w request = .ok result → ∀ position ∈ result.positions,
    ∃ session ∈ request.session, w.had (request.seat session) position

def Continues (keyId : String) (w : World) (session : Session) (request : EventsRequest)
    (position : Nat) : Prop :=
  ∃ conversation cursor claims,
    onlyRow (w.db.conversations.filter (isConversation request.conversationId)) =
      some conversation ∧
    request.cursor = some cursor ∧
    decodeCursor keyId w.issued (contextOf session conversation) cursor = some claims ∧
    ¬ claims.expiresAt ≤ request.now ∧ claims.lastReturnedPosition = position

/-- A cursor continues no further back than where the reader's present period starts, and an
envelope ID names an envelope inside that period. -/
def KeepsToPeriods (keyId : String) (w : World) : Request → Prop
  | .events request => ∀ session ∈ request.session, ∀ membership position,
      readerMembership w.db request.conversationId session.installationId = some membership →
      Continues keyId w session request position → membership.joinedPosition ≤ position + 1
  | .envelope request => ∀ session ∈ request.session, ∀ membership row,
      membership ∈ w.db.memberships →
      seatOf membership = ⟨request.conversationId, session.installationId⟩ →
      row ∈ w.db.envelopes → row.conversationId = request.conversationId →
      row.envelopeId = request.envelopeId → (periodOf membership).covers row.position

variable {keyId : String} {w : World}

theorem readerMembership_eq_some {db : DeliveryDb} {conversationId installationId : String}
    (h : readerMembership db conversationId installationId = some membership) :
    membership ∈ db.memberships ∧ seatOf membership = ⟨conversationId, installationId⟩ := by
  have hsingle := onlyRow_eq_some.mp h
  have hmem := List.mem_filter.mp (hsingle ▸ List.mem_singleton_self membership)
  obtain ⟨hrow, hselected⟩ := hmem
  obtain ⟨hconversation, hinstallation⟩ := of_decide_eq_true hselected
  refine ⟨hrow, ?_⟩
  unfold seatOf
  rw [hconversation, hinstallation]

theorem had_of_covers (remembered : Remembered w.db.memberships w.periods)
    (hmem : membership ∈ w.db.memberships)
    (h : (periodOf membership).covers position) : w.had (seatOf membership) position :=
  ⟨periodOf membership, remembered.had membership hmem, rfl, h⟩

theorem afterPosition_eq_ok {context : CursorContext} {now : String}
    {cursor : Option SealedCursor} {position : Option Nat}
    (h : afterPosition keyId w context now cursor = .ok position) :
    (cursor = none ∧ position = none) ∨ ∃ found claims, cursor = some found ∧
      decodeCursor keyId w.issued context found = some claims ∧ ¬ claims.expiresAt ≤ now ∧
      position = some claims.lastReturnedPosition := by
  unfold afterPosition at h
  split at h
  · exact Or.inl ⟨rfl, (Except.ok.inj h).symm⟩
  · rename_i found
    split at h
    · cases h
    · rename_i claims hclaims
      split at h
      · cases h
      · rename_i fresh
        exact Or.inr ⟨found, claims, rfl, hclaims, fresh, (Except.ok.inj h).symm⟩

theorem readConversationEvents_positions {result : ReadAnswer}
    (h : readConversationEvents keyId w request = .ok result)
    (hposition : position ∈ result.positions) :
    ∃ session ∈ request.session, ∃ anchor events nextPosition hasMore snapshot,
      (anchor = none ∨ ∃ start, anchor = some start ∧ Continues keyId w session request start) ∧
      readPage w.db (pageInput session request.conversationId anchor) =
        .page events nextPosition hasMore snapshot ∧
      position ∈ events.map ConversationPageEvent.position := by
  unfold readConversationEvents at h
  split at h
  · cases h
    cases hposition
  split at h
  · cases h
    cases hposition
  rename_i session hsession
  split at h
  · cases h
    cases hposition
  rename_i conversation hconversation
  dsimp only at h
  split at h
  · rename_i refused hrefused
    cases h
    unfold afterPosition at hrefused
    split at hrefused
    · cases hrefused
    · split at hrefused
      · cases hrefused
        cases hposition
      · split at hrefused
        · cases hrefused
          cases hposition
        · cases hrefused
  rename_i anchor hanchor
  unfold pageAnswer at h
  split at h
  · cases h
    cases hposition
  · cases h
    cases hposition
  rename_i events nextPosition hasMore snapshot hpage
  obtain ⟨expiresAt, -, h⟩ := bind_ok.mp h
  cases h
  refine ⟨session, hsession, anchor, events, nextPosition, hasMore, snapshot, ?_, hpage, hposition⟩
  rcases afterPosition_eq_ok hanchor with ⟨-, hnone⟩ | ⟨cursor, claims, hcursor, hclaims, fresh, hsome⟩
  · exact Or.inl hnone
  · exact Or.inr ⟨claims.lastReturnedPosition, hsome, conversation, cursor, claims, hconversation,
      hcursor, hclaims, fresh, rfl⟩

theorem events_inside (remembered : Remembered w.db.memberships w.periods)
    (keeps : KeepsToPeriods keyId w (.events request)) :
    ReadsInside keyId w (.events request) := by
  intro result hanswer position hposition
  obtain ⟨session, hsession, anchor, events, nextPosition, hasMore, snapshot, hanchor, hpage,
    hevent⟩ := readConversationEvents_positions hanswer hposition
  obtain ⟨event, hmapped, rfl⟩ := List.mem_map.mp hevent
  obtain ⟨membership, hmembership, hrows⟩ := readPage_events hpage
  obtain ⟨row, hrow, rfl⟩ := hrows event hmapped
  obtain ⟨-, -, hbehind, hcap⟩ := mem_visibleRows hrow
  obtain ⟨hmem, hseat⟩ := readerMembership_eq_some hmembership
  have hseat : seatOf membership = ⟨request.conversationId, session.installationId⟩ := hseat
  have hjoined : membership.joinedPosition ≤ row.position := by
    rcases hanchor with rfl | ⟨start, rfl, hstart⟩
    · -- without a cursor the page starts where the reader joined
      change (membership.joinedPosition : Int) - 1 < row.position at hbehind
      omega
    · have hkept := keeps session hsession membership start hmembership hstart
      change (start : Int) < row.position at hbehind
      omega
  refine ⟨session, hsession, ?_⟩
  change w.had ⟨request.conversationId, session.installationId⟩ row.position
  rw [← hseat]
  exact had_of_covers remembered hmem ⟨hjoined, hcap⟩

theorem envelope_inside (remembered : Remembered w.db.memberships w.periods)
    {request : EnvelopeRequest} (keeps : KeepsToPeriods keyId w (.envelope request)) :
    ReadsInside keyId w (.envelope request) := by
  intro result hanswer position hposition
  cases hanswer
  unfold readEnvelope at hposition
  split at hposition
  · cases hposition
  split at hposition
  · cases hposition
  rename_i session hsession
  split at hposition
  · cases hposition
  rename_i row hrow
  have hmem := List.mem_flatMap.mp (onlyRow_eq_some.mp hrow ▸ List.mem_singleton_self row)
  obtain ⟨membership, hmembership, henvelope⟩ := hmem
  obtain ⟨hmember, hselected⟩ := List.mem_filter.mp hmembership
  obtain ⟨hconversation, hinstallation⟩ := of_decide_eq_true hselected
  obtain ⟨hstored, hnamed⟩ := List.mem_filter.mp henvelope
  obtain ⟨hof, hid⟩ := of_decide_eq_true hnamed
  have hseat : seatOf membership = ⟨request.conversationId, session.installationId⟩ := by
    unfold seatOf
    rw [hconversation, hinstallation]
  obtain rfl := List.mem_singleton.mp hposition
  refine ⟨session, hsession, ?_⟩
  change w.had ⟨request.conversationId, session.installationId⟩ row.position
  rw [← hseat]
  exact had_of_covers remembered hmember
    (keeps session hsession membership row hmember hseat hstored hof hid)

theorem request_inside (remembered : Remembered w.db.memberships w.periods) {request : Request}
    (keeps : KeepsToPeriods keyId w request) : ReadsInside keyId w request := by
  cases request with
  | events request => exact events_inside remembered keeps
  | envelope request => exact envelope_inside remembered keeps

end

section

variable {keyId : String} {w : World} {H : HashFunction} {keys : AuthorityDerivations}
  {checks : DocumentChecks}

theorem World.step_read (w : World) (request : Request) :
    (w.step keyId H keys checks (.read request)).toLedger = w.toLedger := by
  unfold World.step
  dsimp only
  split
  · rfl
  · rfl

theorem World.step_remembered (remembered : Remembered w.db.memberships w.periods) (event : Event) :
    Remembered (w.step keyId H keys checks event).db.memberships
      (w.step keyId H keys checks event).periods := by
  cases event with
  | write call => exact remembered.call call
  | read request =>
    rw [World.step_read]
    exact remembered

theorem World.run_remembered (remembered : Remembered w.db.memberships w.periods)
    (events : List Event) :
    Remembered (w.run keyId H keys checks events).db.memberships
      (w.run keyId H keys checks events).periods := by
  induction events generalizing w with
  | nil => exact remembered
  | cons event events ih => exact ih (World.step_remembered remembered event)

/-- In a run whose reads keep to the reader's periods, no answer has an envelope from outside. -/
theorem reads_stay_inside (remembered : Remembered w.db.memberships w.periods)
    (events : List Event)
    (keeps : ∀ before request after, events = before ++ .read request :: after →
      KeepsToPeriods keyId (w.run keyId H keys checks before) request) :
    ∀ before request after, events = before ++ .read request :: after →
      ReadsInside keyId (w.run keyId H keys checks before) request := by
  intro before request after hevents
  exact request_inside (World.run_remembered remembered before) (keeps before request after hevents)

end

def rejoinedMember : MembershipRow :=
  { sampleMember customerAccountId customerInstallationId customerCredentialId .customer with
    joinedPosition := 4 }

def sampleEnvelope (position : Nat) (envelopeId : String) : EnvelopeRow where
  conversationId := sampleConversationId
  position := position
  envelopeId := envelopeId
  envelopeClass := .application
  sender := .installation staffAccountId staffInstallationId
  epoch := 2
  rosterVersion := 2
  contentType := .privateMessage
  envelopeSha256 := List.replicate 32 10
  receivedAt := "2026-08-14T16:00:00.000Z"
  transcript := none
  envelopeBytes := [1, 2, 3]
  previousHeadHash := List.replicate 32 11
  leafHash := List.replicate 32 12
  headHash := List.replicate 32 13
  logSigningKeyId := "log-1"
  logCheckpointDigest := List.replicate 32 14
  logHeadSignature := List.replicate 64 15
  expiresAt := 0

def foreignEnvelopeId : String := "00000000-0000-4000-8000-0000000000f3"

def samplePageEnd : PageEndRow where
  conversation := sampleConversation.toLockedConversationState
  position := 4
  policyHead := JbChat.Delivery.QuotaConservation.samplePolicyHead
  createdAt := "2026-08-14T16:00:00.000Z"

def rejoinedDb : DeliveryDb :=
  { sampleDb with
    memberships := [rejoinedMember]
    envelopes := [sampleEnvelope 3 foreignEnvelopeId,
      sampleEnvelope 4 "00000000-0000-4000-8000-0000000000f4"]
    pageEnds := [samplePageEnd] }

def customerSession : Session := ⟨customerAccountId, customerInstallationId⟩

/-- A cursor of the first period, a day before it expires. -/
def earlierCursor : SealedCursor where
  context := contextOf customerSession sampleConversation
  claims :=
    { realmId := sampleConversation.realmId
      installationId := customerInstallationId
      conversationId := sampleConversationId
      lastReturnedPosition := 2
      issuedAt := "2026-08-14T15:00:00.000Z"
      expiresAt := "2026-08-15T15:00:00.000Z"
      keyId := "cursor-1" }

def rejoinedWorld : World where
  db := rejoinedDb
  periods := [⟨seatOf rejoinedMember, 1, some 2⟩, ⟨seatOf rejoinedMember, 4, none⟩]
  issued := [earlierCursor]

def staleRequest : EventsRequest where
  session := some customerSession
  conversationId := sampleConversationId
  cursor := some earlierCursor
  now := "2026-08-14T16:00:00.000Z"

def foreignRequest : EnvelopeRequest where
  session := some customerSession
  conversationId := sampleConversationId
  envelopeId := foreignEnvelopeId

theorem rejoinedWorld_remembered :
    Remembered rejoinedWorld.db.memberships rejoinedWorld.periods := by
  refine ⟨List.nodup_singleton _, ?_, ?_⟩
  · intro row hrow
    rw [List.mem_singleton.mp hrow]
    exact ⟨fun _ => rfl, fun _ => rfl⟩
  · intro row hrow
    rw [List.mem_singleton.mp hrow]
    exact List.mem_cons_of_mem _ List.mem_cons_self

theorem not_had_between : ¬ rejoinedWorld.had (seatOf rejoinedMember) 3 := by
  rintro ⟨period, hperiod, -, hjoined, hremoved⟩
  rcases List.mem_cons.mp hperiod with rfl | hlater
  · exact absurd (hremoved 2 rfl) (by decide)
  · rw [List.mem_singleton.mp hlater] at hjoined
    exact absurd hjoined (by decide)

/-- What a returned page holds. -/
def pageOf : Except Failure ReadAnswer → Option (List ConversationPageEvent × Bool)
  | .ok (.page events hasMore _ _) => some (events, hasMore)
  | _ => none

theorem page_of_pageOf {answer : Except Failure ReadAnswer} {events : List ConversationPageEvent}
    {hasMore : Bool} (h : pageOf answer = some (events, hasMore)) :
    ∃ snapshot nextCursor, answer = .ok (.page events hasMore snapshot nextCursor) := by
  unfold pageOf at h
  split at h
  · cases h
    exact ⟨_, _, rfl⟩
  · cases h

theorem staleRequest_answer : ∃ snapshot nextCursor,
    readConversationEvents "cursor-1" rejoinedWorld staleRequest =
      .ok (.page (rejoinedDb.envelopes.map eventOf) false snapshot nextCursor) :=
  page_of_pageOf (by decide +kernel)

/-- Both routes return the envelope that was stored between the customer's periods. -/
theorem reads_leave_periods :
    Remembered rejoinedWorld.db.memberships rejoinedWorld.periods ∧
      ¬ ReadsInside "cursor-1" rejoinedWorld (.events staleRequest) ∧
      ¬ ReadsInside "cursor-1" rejoinedWorld (.envelope foreignRequest) := by
  refine ⟨rejoinedWorld_remembered, ?_, ?_⟩
  · intro inside
    obtain ⟨snapshot, nextCursor, hanswer⟩ := staleRequest_answer
    obtain ⟨session, hsession, had⟩ := inside _ hanswer 3 List.mem_cons_self
    obtain rfl := Option.mem_some_iff.mp hsession
    exact not_had_between had
  · intro inside
    have hread : (readEnvelope rejoinedWorld foreignRequest).positions = [3] := by decide +kernel
    obtain ⟨session, hsession, had⟩ := inside _ rfl 3 (hread ▸ List.mem_cons_self)
    obtain rfl := Option.mem_some_iff.mp hsession
    exact not_had_between had

def acceptingChecks : DocumentChecks :=
  ⟨fun _ _ => .ok (), fun _ _ => .ok (), fun _ _ => .ok (), fun _ _ => .ok (), fun _ _ => .ok (),
    fun _ _ => .ok (), fun _ _ => .ok "", fun _ _ => .ok ""⟩

def ownEnvelopeId : String := "00000000-0000-4000-8000-0000000000f5"

/-- A cursor of the period since position 4. -/
def presentCursor : SealedCursor :=
  { earlierCursor with claims := { earlierCursor.claims with lastReturnedPosition := 4 } }

/-- One more envelope is stored after the customer's last read. -/
def presentWorld : World where
  db := { rejoinedDb with
    envelopes := rejoinedDb.envelopes ++ [sampleEnvelope 5 ownEnvelopeId]
    pageEnds := [{ samplePageEnd with position := 5 }] }
  periods := rejoinedWorld.periods
  issued := [earlierCursor, presentCursor]

def presentRequest : EventsRequest := { staleRequest with cursor := some presentCursor }

def ownRequest : EnvelopeRequest := { foreignRequest with envelopeId := ownEnvelopeId }

theorem presentWorld_remembered :
    Remembered presentWorld.db.memberships presentWorld.periods := rejoinedWorld_remembered

theorem presentRequest_answer : ∃ snapshot nextCursor,
    readConversationEvents "cursor-1" presentWorld presentRequest =
      .ok (.page [eventOf (sampleEnvelope 5 ownEnvelopeId)] false snapshot nextCursor) :=
  page_of_pageOf (by decide +kernel)

theorem presentRequest_keeps :
    KeepsToPeriods "cursor-1" presentWorld (.events presentRequest) := by
  intro session hsession membership position hmembership continues
  obtain ⟨hmem, -⟩ := readerMembership_eq_some hmembership
  obtain ⟨conversation, cursor, claims, -, hcursor, hclaims, -, rfl⟩ := continues
  cases hcursor
  rw [List.mem_singleton.mp hmem]
  unfold decodeCursor at hclaims
  split at hclaims
  · cases hclaims
    decide
  · cases hclaims

theorem ownRequest_keeps {w : World} (same : w.toLedger = presentWorld.toLedger) :
    KeepsToPeriods "cursor-1" w (.envelope ownRequest) := by
  intro session hsession membership row hmem _ hrow _ hid
  rw [same] at hmem hrow
  rw [List.mem_singleton.mp hmem]
  have hrows : ∀ row ∈ presentWorld.db.envelopes, row.envelopeId = ownEnvelopeId →
      (periodOf rejoinedMember).covers row.position := by decide +kernel
  exact hrows row hrow hid

/-- The customer continues where it joined again and then reads the envelope by its ID; both
answers hold the envelope at position 5. -/
theorem reads_stay_inside_rejoined :
    ((∃ snapshot nextCursor, readConversationEvents "cursor-1" presentWorld presentRequest =
        .ok (.page [eventOf (sampleEnvelope 5 ownEnvelopeId)] false snapshot nextCursor)) ∧
      (readEnvelope presentWorld ownRequest).positions = [5]) ∧
    ReadsInside "cursor-1" presentWorld (.events presentRequest) ∧
    ReadsInside "cursor-1" (presentWorld.run "cursor-1" lastBytes sampleKeys acceptingChecks
      [.read (.events presentRequest)]) (.envelope ownRequest) := by
  have keeps : ∀ before request after,
      [Event.read (.events presentRequest), .read (.envelope ownRequest)] =
        before ++ .read request :: after → KeepsToPeriods "cursor-1"
          (presentWorld.run "cursor-1" lastBytes sampleKeys acceptingChecks before) request := by
    rintro (_ | ⟨first, _ | ⟨second, before⟩⟩) request after hevents
    · obtain rfl := Event.read.inj (List.cons.inj hevents).1
      exact presentRequest_keeps
    · obtain ⟨rfl, hrest⟩ := List.cons.inj hevents
      obtain rfl := Event.read.inj (List.cons.inj hrest).1
      apply ownRequest_keeps
      rw [World.run, List.foldl_cons, List.foldl_nil, World.step_read]
    · exact absurd (congrArg List.length hevents) (by simp)
  have inside := reads_stay_inside presentWorld_remembered _ keeps
  exact ⟨⟨presentRequest_answer, by decide +kernel⟩, inside [] _ _ rfl, inside [_] _ _ rfl⟩

end JbChat.Http.EnvelopeReads
