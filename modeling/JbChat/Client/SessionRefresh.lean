/- source: src/lib/messaging/client.ts, src/production/identity/enrollmentStore.ts,
     src/production/http/messagingHttp.ts
   digest: The refreshes of a device's tabs against the rotation of its tokens on the server. -/

import JbChat.Foundation.GuardedRun
import JbChat.Identity.SessionStore

/-!
The tabs of a device share the stored refresh token; each keeps its own access token. A refresh is
a request whose statements run on the server among those of other refreshes, and whose answer
arrives later or never. Other requests may be answered with any status at any time.
-/

set_option autoImplicit false

namespace JbChat.Client.SessionRefresh

open Foundation.HashTrace Foundation.GuardedRun Foundation.Transaction Identity
open Identity.SessionStore

section

structure Tokens where
  accessToken : String
  refreshToken : String
deriving DecidableEq

/-- The response to a refresh. -/
inductive Answer where
  | refused (status : Nat)
  | issued (tokens : Tokens)

/-- Where the refresh request of a call is; `drawn`: the tokens of the successor, once drawn. -/
inductive Exchange where
  | idle
  | sent (refreshToken : String)
  | serving (refreshToken : String) (drawn : Option Tokens)
  | answered (answer : Answer)

/-- Who awaits `tryRefresh`: `api` before its request or after a 401, or `restoreSession`. -/
inductive Caller where
  | first
  | retry
  | restore
deriving DecidableEq

/-- What a call awaits. The phases of `tryRefresh` carry its caller; `retried`: the request is
repeated after a refresh. -/
inductive Phase where
  | device
  | record (caller : Caller) (refreshToken : Option String)
  | signing (caller : Caller) (refreshToken : String)
  | refreshResponse (caller : Caller)
  | refreshBody (caller : Caller) (tokens : Tokens)
  | active
  | proving (retried : Bool)
  | response (retried : Bool)
  | returned (status : Option Nat)
  | thrown
deriving DecidableEq

structure ApiCall where
  tab : Nat
  phase : Phase
  exchange : Exchange

/-- `stored`: the item of the refresh token; `access`: the access token of each tab. The request of
a call has its place on the server. -/
structure World where
  server : Sys
  stored : Option String
  access : Nat → Option String
  calls : List ApiCall

namespace World

def setPhase (world : World) (index : Nat) (call : ApiCall) (phase : Phase) : World :=
  { world with calls := world.calls.set index { call with phase := phase } }

def setExchange (world : World) (index : Nat) (call : ApiCall) (exchange : Exchange) : World :=
  { world with calls := world.calls.set index { call with exchange := exchange } }

/-- `signOutLocal` in a tab. -/
def signOutLocal (world : World) (tab : Nat) : World :=
  { world with
    stored := none
    access := Function.update world.access tab none }

/-- `tryRefresh` starts with the stored token. -/
def tryRefresh (world : World) (index : Nat) (call : ApiCall) (caller : Caller) : World :=
  world.setPhase index call (.record caller world.stored)

end World

/-- What follows a refresh that succeeded. -/
def Caller.resumed : Caller → Phase
  | .first => .active
  | .retry => .proving true
  | .restore => .returned none

/-- What follows a refresh that did not. -/
def Caller.given : Caller → Phase
  | .restore => .returned none
  | _ => .returned (some 401)

/-- An empty token is none. -/
def truthy (token : Option String) : Bool := token.any fun text => decide (text ≠ "")

/-- The statements of a refresh after the lookup of its token, but for the insertion. -/
def ofRefresh : Action → Bool
  | .lockSession => true
  | .detectReuse => true
  | .rotate => true
  | .visitRow _ => true
  | .commit => true
  | .abort => true
  | _ => false

/-- The response that the end of the transaction decides on. -/
def answerOf (action : Action) (process : Process) (drawn : Option Tokens) : Option Answer :=
  match action with
  | .commit =>
    match process, drawn with
    | .rotated _ _ _, some tokens => some (.issued tokens)
    | _, _ => some (.refused 401)
  | .abort => some (.refused 500)
  | _ => none

/-- A call, the end of an await (`fail`: it throws), or a step of a refresh on the server. -/
inductive Event where
  | api (tab : Nat)
  | restoreSession (tab : Nat)
  | idbGet (index : Nat) (present : Bool)
  | dpopProof (index : Nat)
  | refreshAnswer (index : Nat)
  | refreshJson (index : Nat)
  | respond (index status : Nat)
  | fail (index : Nat)
  | lose (index : Nat)
  | receive (index : Nat) (refusal : Option Nat) (credential : CredentialReading) (now : Int)
  | serve (index : Nat) (action : Action)
  | insertSuccessor (index : Nat) (sessionId : String) (tokens : Tokens)

variable (hmacAccessToken hmacRefreshToken : String → Bytes)

/-- A step of a call that stands where it stands. -/
def callStep (event : Event) (index : Nat) (call : ApiCall) (world : World) : Option World :=
  match event, call.phase, call.exchange with
  | .idbGet _ present, .device, _ =>
    if present && truthy (world.access call.tab) then some (world.setPhase index call .active)
    else some (world.tryRefresh index call .first)
  | .idbGet _ present, .record caller refreshToken, _ =>
    match refreshToken with
    | some token =>
      if present && truthy (some token) then
        some (world.setPhase index call (.signing caller token))
      else some (world.setPhase index call caller.given)
    | none => some (world.setPhase index call caller.given)
  | .idbGet _ present, .active, _ =>
    if present && truthy (world.access call.tab) then
      some (world.setPhase index call (.proving false))
    else some (world.setPhase index call (.returned (some 401)))
  | .dpopProof _, .signing caller token, _ =>
    some { world with
      calls := world.calls.set index { call with
        phase := .refreshResponse caller
        exchange := .sent token } }
  | .dpopProof _, .proving retried, _ => some (world.setPhase index call (.response retried))
  | .refreshAnswer _, .refreshResponse caller, .answered (.refused status) =>
    let refused := world.setPhase index { call with exchange := .idle } caller.given
    some (if status = 401 then refused.signOutLocal call.tab else refused)
  | .refreshAnswer _, .refreshResponse caller, .answered (.issued tokens) =>
    some (world.setPhase index call (.refreshBody caller tokens))
  | .refreshJson _, .refreshBody caller tokens, _ =>
    some { world.setPhase index { call with exchange := .idle } caller.resumed with
      stored := some tokens.refreshToken
      access := Function.update world.access call.tab (some tokens.accessToken) }
  | .respond _ status, .response retried, _ =>
    if status = 401 ∧ retried = false then some (world.tryRefresh index call .retry)
    else some (world.setPhase index call (.returned (some status)))
  | .fail _, .returned _, _ => none
  | .fail _, .thrown, _ => none
  | .fail _, _, _ => some (world.setPhase index call .thrown)
  | .lose _, _, .sent _ => some (world.setExchange index call .idle)
  | .receive _ refusal credential now, _, .sent token =>
    match refusal, SessionStore.step world.server index
        (.refreshSession (hmacRefreshToken token) credential now) with
    | some status, _ => some (world.setExchange index call (.answered (.refused status)))
    | none, none => some (world.setExchange index call (.answered (.refused 401)))
    | none, some server =>
      some { world.setExchange index call (.serving token none) with server := server }
  | .serve _ action, _, .serving token drawn =>
    if ofRefresh action then
      (SessionStore.step world.server index action).map fun server =>
        let exchange := match answerOf action (world.server.processes index) drawn with
          | some answer => .answered answer
          | none => .serving token drawn
        { world.setExchange index call exchange with server := server }
    else none
  | .insertSuccessor _ sessionId tokens, _, .serving token _ =>
    let values : SessionValues := ⟨sessionId, hmacAccessToken tokens.accessToken,
      hmacRefreshToken tokens.refreshToken⟩
    if values.refreshTokenHash ∉ world.server.sessions.map SessionRow.refreshTokenHash ∧
        sessionId ∉ world.server.sessions.map SessionRow.sessionId then
      (SessionStore.step world.server index (.insertSuccessor values)).map fun server =>
        { world.setExchange index call (.serving token (some tokens)) with server := server }
    else none
  | _, _, _ => none

def Event.index? : Event → Option Nat
  | .api _ => none
  | .restoreSession _ => none
  | .idbGet index _ => some index
  | .dpopProof index => some index
  | .refreshAnswer index => some index
  | .refreshJson index => some index
  | .respond index _ => some index
  | .fail index => some index
  | .lose index => some index
  | .receive index _ _ _ => some index
  | .serve index _ => some index
  | .insertSuccessor index _ _ => some index

def step (event : Event) (world : World) : Option World :=
  match event with
  | .api tab => some { world with calls := world.calls ++ [⟨tab, .device, .idle⟩] }
  | .restoreSession tab =>
    some { world with calls := world.calls ++ [⟨tab, .record .restore world.stored, .idle⟩] }
  | event =>
    match event.index? with
    | some index =>
      match world.calls[index]? with
      | some call => callStep hmacAccessToken hmacRefreshToken event index call world
      | none => none
    | none => none

def World.enrolled (request : SessionRequest) (credential : CredentialReading)
    (tokenFamilyId sessionId : String) (tokens : Tokens) (now : Int) (tab : Nat) : World where
  server := { Sys.start with
    sessions := [issuedSession request credential tokenFamilyId
      ⟨sessionId, hmacAccessToken tokens.accessToken, hmacRefreshToken tokens.refreshToken⟩ now]
    drawn := [tokenFamilyId, sessionId] }
  stored := some tokens.refreshToken
  access := Function.update (fun _ => none) tab (some tokens.accessToken)
  calls := []

end

/-- The refresh token that `tryRefresh` has read and is about to send. -/
def Phase.token : Phase → Option String
  | .record _ refreshToken => refreshToken
  | .signing _ refreshToken => some refreshToken
  | _ => none

/-- The refresh token that a call has read, as long as its request may be served. -/
def ApiCall.holds (call : ApiCall) : Option String :=
  match call.exchange with
  | .idle => call.phase.token
  | .sent token => some token
  | .serving token _ => some token
  | .answered _ => none

/-- The server is rotating a token, or has rotated it and its successor is not stored. -/
def World.rotates (world : World) (index : Nat) (call : ApiCall) : Bool :=
  match call.exchange, world.server.processes index with
  | .answered (.issued _), _ => true
  | .serving _ _, .rotating _ _ _ => true
  | .serving _ _, .rotated _ _ _ => true
  | _, _ => false

/-- No token is rotated, and no successor waits to be stored. -/
def World.Quiet (world : World) : Prop :=
  ∀ entry ∈ world.calls.zipIdx, world.rotates entry.2 entry.1 = false

/-- The step reads the stored token. -/
def reads (event : Event) (world : World) : Bool :=
  match event with
  | .restoreSession _ => true
  | .idbGet index present =>
    world.calls[index]?.any fun call =>
      decide (call.phase = .device) && !(present && truthy (world.access call.tab))
  | .respond index status =>
    world.calls[index]?.any fun call => decide (call.phase = .response false ∧ status = 401)
  | _ => false

/-- The stored token is not read while the token is rotated, nor before its successor is stored;
the server rotates a token only when no other refresh has read one. -/
def Guard (event : Event) (world : World) : Prop :=
  (reads event world = true → ∀ entry ∈ world.calls.zipIdx,
    world.rotates entry.2 entry.1 = false) ∧
  match event with
  | .serve index .rotate => ∀ entry ∈ world.calls.zipIdx, entry.2 ≠ index →
      entry.1.holds = none
  | _ => True

instance Guard.decide (event : Event) (world : World) : Decidable (Guard event world) := by
  unfold Guard
  refine @instDecidableAnd _ _ inferInstance ?_
  split <;> infer_instance

/-- No refresh finds its session rotated or revoked, and no session is revoked. -/
structure World.NeverReused (world : World) : Prop where
  unclassified : ∀ pid row credential now,
    world.server.processes pid = .holding row credential now →
      row.state ≠ .rotated ∧ row.state ≠ .revoked
  unrevoked : ∀ row ∈ world.server.sessions, row.state ≠ .revoked

section

variable (hmacRefreshToken : String → Bytes) {later : ApiCall}

def rowsOf (sessions : List SessionRow) (refreshToken : String) : List SessionRow :=
  sessions.filter fun row => decide (row.refreshTokenHash = hmacRefreshToken refreshToken)

def Current (sessions : List SessionRow) (refreshToken : String) : Prop :=
  ∃ row, rowsOf hmacRefreshToken sessions refreshToken = [row] ∧ row.state = .active

def Serves (sessions : List SessionRow) (refreshToken : String) (drawn : Option Tokens) :
    Process → Prop
  | .waiting sessionId _ _ =>
    ∃ row, rowsOf hmacRefreshToken sessions refreshToken = [row] ∧ row.sessionId = sessionId
  | .holding row _ _ => rowsOf hmacRefreshToken sessions refreshToken = [row]
  | .rotating row _ _ => rowsOf hmacRefreshToken sessions refreshToken = [row]
  | .rotated row successor _ => rowsOf hmacRefreshToken sessions refreshToken = [row] ∧
      ∃ tokens, drawn = some tokens ∧
        successor.refreshTokenHash = hmacRefreshToken tokens.refreshToken ∧
        rowsOf hmacRefreshToken sessions tokens.refreshToken = [] ∧
        successor.sessionId ∉ sessions.map SessionRow.sessionId ∧ successor.state = .active
  | _ => False

/-- The refresh request was sent, and nothing of it has been stored. -/
def Phase.requested : Phase → Bool
  | .refreshResponse _ => true
  | .refreshBody _ _ => true
  | .thrown => true
  | _ => false

/-- A token that a call holds is that of an active session, and is served as such. -/
structure Sound (server : Sys) (index : Nat) (call : ApiCall) : Prop where
  serves : ∀ token drawn, call.exchange = .serving token drawn →
    Serves hmacRefreshToken server.sessions token drawn (server.processes index)
  held : ∀ token, call.holds = some token → Current hmacRefreshToken server.sessions token
  issued : ∀ tokens, call.exchange = .answered (.issued tokens) →
    Current hmacRefreshToken server.sessions tokens.refreshToken
  body : ∀ caller tokens, call.phase = .refreshBody caller tokens →
    call.exchange = .answered (.issued tokens)
  calm : call.phase.requested = false → call.exchange = .idle

/-- While a token is rotated nobody else holds one, and until its successor is stored it is the
successor that is active. -/
structure Inv (world : World) : Prop where
  ids : (world.server.sessions.map SessionRow.sessionId).Nodup
  unrevoked : ∀ row ∈ world.server.sessions, row.state ≠ .revoked
  busy : ∀ pid, world.server.processes pid ≠ .idle →
    ∃ (call : ApiCall) (token : String) (drawn : Option Tokens),
      world.calls[pid]? = some call ∧ call.exchange = .serving token drawn
  sound : ∀ (index : Nat) (call : ApiCall), world.calls[index]? = some call →
    Sound hmacRefreshToken world.server index call
  alone : ∀ (index : Nat) (call : ApiCall), world.calls[index]? = some call →
    world.rotates index call = true →
      ∀ (other : Nat) (entry : ApiCall), other ≠ index → world.calls[other]? = some entry →
      entry.holds = none ∧ world.rotates other entry = false
  stored : (∀ (index : Nat) (call : ApiCall) tokens, world.calls[index]? = some call →
      call.exchange ≠ .answered (.issued tokens)) →
    ∀ token, world.stored = some token → Current hmacRefreshToken world.server.sessions token

variable {hmacRefreshToken} {world : World} {index : Nat} {call : ApiCall} {token : String}

theorem Inv.enrolled (hmacAccessToken : String → Bytes) (request : SessionRequest)
    (credential : CredentialReading) (tokenFamilyId sessionId : String) (tokens : Tokens)
    (now : Int) (tab : Nat) :
    Inv hmacRefreshToken (World.enrolled hmacAccessToken hmacRefreshToken request credential
      tokenFamilyId sessionId tokens now tab) where
  ids := List.nodup_singleton _
  unrevoked row hrow := by
    obtain rfl := List.mem_singleton.mp hrow
    nofun
  busy _ h := absurd rfl h
  sound _ _ h := nomatch h
  alone _ _ h := nomatch h
  stored _ token htoken := by
    cases htoken
    refine ⟨issuedSession request credential tokenFamilyId ⟨sessionId,
      hmacAccessToken tokens.accessToken, hmacRefreshToken tokens.refreshToken⟩ now, ?_, rfl⟩
    unfold rowsOf
    exact List.filter_cons_of_pos (decide_eq_true rfl)

theorem rotates_eq {other : World} (hexchange : later.exchange = call.exchange)
    (hprocess : other.server.processes index = world.server.processes index) :
    other.rotates index later = world.rotates index call := by
  unfold World.rotates
  rw [hexchange, hprocess]

section

variable {calls : List ApiCall} {other : Nat} {entry : ApiCall}

theorem set_self (hcall : calls[index]? = some call) :
    (calls.set index later)[index]? = some later :=
  List.getElem?_set_self (List.getElem?_eq_some_iff.mp hcall).1

theorem set_other (hother : other ≠ index) (hentry : calls[other]? = some entry) :
    (calls.set index later)[other]? = some entry :=
  (List.getElem?_set_ne (Ne.symm hother)).trans hentry

theorem of_set (h : (calls.set index later)[other]? = some entry) :
    other = index ∧ later = entry ∨ other ≠ index ∧ calls[other]? = some entry := by
  by_cases hsame : other = index
  · subst hsame
    have hlt : other < calls.length := by
      rw [← List.length_set]
      exact (List.getElem?_eq_some_iff.mp h).1
    exact Or.inl ⟨rfl, Option.some.inj ((List.getElem?_set_self hlt).symm.trans h)⟩
  · exact Or.inr ⟨hsame, (List.getElem?_set_ne (Ne.symm hsame)).symm.trans h⟩

end

theorem Sound.keep {server other : Sys} (sound : Sound hmacRefreshToken server index call)
    (hsessions : other.sessions = server.sessions)
    (hprocess : other.processes index = server.processes index) :
    Sound hmacRefreshToken other index call := by
  refine ⟨?_, ?_, ?_, sound.body, sound.calm⟩
  · rw [hsessions, hprocess]
    exact sound.serves
  · rw [hsessions]
    exact sound.held
  · rw [hsessions]
    exact sound.issued

theorem World.Quiet.still (quiet : world.Quiet) (hcall : world.calls[index]? = some call) :
    world.rotates index call = false :=
  quiet (call, index) (List.mem_zipIdx_iff_getElem?.mpr hcall)

/-- What is read when nothing is rotated is the token of an active session. -/
theorem Inv.current (inv : Inv hmacRefreshToken world) (hread : world.stored = some token)
    (quiet : world.Quiet) : Current hmacRefreshToken world.server.sessions token := by
  refine inv.stored (fun place found tokens hfound hanswered => ?_) token hread
  have hfalse := quiet.still hfound
  unfold World.rotates at hfalse
  rw [hanswered] at hfalse
  cases hfalse

/-- A call that goes on without the server: what it holds then it held before, or has read when
nothing was rotating. -/
theorem Inv.proceed (inv : Inv hmacRefreshToken world) (hcall : world.calls[index]? = some call)
    {stored : Option String} {access : Nat → Option String} (hserving : ∀ token drawn,
      later.exchange = .serving token drawn ↔ call.exchange = .serving token drawn)
    (hissued : ∀ tokens, later.exchange = .answered (.issued tokens) →
      call.exchange = .answered (.issued tokens))
    (hbody : ∀ caller tokens, later.phase = .refreshBody caller tokens →
      later.exchange = .answered (.issued tokens))
    (hcalm : later.phase.requested = false → later.exchange = .idle)
    (hholds : ∀ token, later.holds = some token → call.holds = some token ∨
      world.stored = some token ∧ world.Quiet)
    (hstored : stored = world.stored ∧ (later.exchange = call.exchange ∨
        ∀ tokens, call.exchange ≠ .answered (.issued tokens)) ∨
      ∀ token, stored = some token → Current hmacRefreshToken world.server.sessions token) :
    Inv hmacRefreshToken { world with
      stored := stored
      access := access
      calls := world.calls.set index later } := by
  have hrotates : world.rotates index later = true → world.rotates index call = true := by
    intro h
    unfold World.rotates at h ⊢
    split at h
    · next hexchange => rw [hissued _ hexchange]
    · next hexchange hprocess => rw [(hserving _ _).mp hexchange, hprocess]
    · next hexchange hprocess => rw [(hserving _ _).mp hexchange, hprocess]
    · cases h
  have sound := inv.sound index call hcall
  refine { ids := inv.ids, unrevoked := inv.unrevoked, busy := ?busy, sound := ?sound
           alone := ?alone, stored := ?stored }
  case busy =>
    intro pid hbusy
    obtain ⟨entry, token, drawn, hentry, hexchange⟩ := inv.busy pid hbusy
    by_cases hsame : pid = index
    · subst hsame
      cases hcall.symm.trans hentry
      exact ⟨later, token, drawn, set_self hcall, (hserving _ _).mpr hexchange⟩
    · exact ⟨entry, token, drawn, set_other hsame hentry, hexchange⟩
  case sound =>
    intro other entry hentry
    rcases of_set hentry with ⟨rfl, rfl⟩ | ⟨-, hentry⟩
    · refine ⟨fun token drawn h => sound.serves token drawn ((hserving _ _).mp h),
        fun token hheld => ?_, fun tokens h => sound.issued tokens (hissued tokens h), hbody, hcalm⟩
      rcases hholds token hheld with hold | ⟨hread, quiet⟩
      · exact sound.held token hold
      · exact inv.current hread quiet
    · exact inv.sound other entry hentry
  case alone =>
    intro place found hfound hrotating other entry hother hentry
    change world.rotates place found = true at hrotating
    change entry.holds = none ∧ world.rotates other entry = false
    rcases of_set hfound with ⟨rfl, rfl⟩ | ⟨hplace, hkept⟩
    · rcases of_set hentry with ⟨rfl, -⟩ | ⟨-, hentry⟩
      · exact absurd rfl hother
      · exact inv.alone place call hcall (hrotates hrotating) other entry hother hentry
    · rcases of_set hentry with ⟨rfl, rfl⟩ | ⟨-, hentry⟩
      · obtain ⟨hnone, hstill⟩ := inv.alone place found hkept hrotating other call hother hcall
        refine ⟨Option.eq_none_iff_forall_ne_some.mpr fun token hheld => ?_, ?_⟩
        · rcases hholds token hheld with hold | ⟨-, quiet⟩
          · rw [hnone] at hold
            cases hold
          · cases hrotating.symm.trans (quiet.still hkept)
        · refine Bool.eq_false_iff.mpr fun h => ?_
          rw [hrotates h] at hstill
          cases hstill
      · exact inv.alone place found hkept hrotating other entry hother hentry
  case stored =>
    intro hnone token htoken
    rcases hstored with ⟨rfl, hkept⟩ | hcurrent
    · refine inv.stored (fun other entry tokens hentry hexchange => ?_) token htoken
      by_cases hsame : other = index
      · subst hsame
        cases hcall.symm.trans hentry
        rcases hkept with hkept | hkept
        · exact hnone other later tokens (set_self hcall) (hkept.trans hexchange)
        · exact hkept tokens hexchange
      · exact hnone other entry tokens (set_other hsame hentry) hexchange
    · exact hcurrent token htoken

end

section

variable {hmacRefreshToken : String → Bytes} {world : World} {index : Nat} {call : ApiCall}
  {server : Sys} {token : String} {drawn : Option Tokens}

theorem holds_of_serving (h : call.exchange = .serving token drawn) : call.holds = some token := by
  unfold ApiCall.holds
  rw [h]

/-- A step of a request on the server that leaves the committed sessions alone. -/
theorem Inv.served (inv : Inv hmacRefreshToken world) (hcall : world.calls[index]? = some call)
    {later : ApiCall} (hheld : call.holds ≠ none) (hsent : call.exchange ≠ .idle)
    (hphase : later.phase = call.phase)
    (hsessions : server.sessions = world.server.sessions)
    (hothers : ∀ pid, pid ≠ index → server.processes pid = world.server.processes pid)
    (hbusy : server.processes index ≠ .idle →
      ∃ token drawn, later.exchange = .serving token drawn)
    (hserves : ∀ token drawn, later.exchange = .serving token drawn →
      Serves hmacRefreshToken world.server.sessions token drawn (server.processes index))
    (hunissued : ∀ tokens, call.exchange ≠ .answered (.issued tokens) ∧
      later.exchange ≠ .answered (.issued tokens))
    (hholds : ∀ token, later.holds = some token → call.holds = some token)
    (hrotates : World.rotates { world with server := server } index later = true →
      world.rotates index call = true ∨
        ∀ other entry, other ≠ index → world.calls[other]? = some entry → entry.holds = none) :
    Inv hmacRefreshToken { world with
      server := server
      calls := world.calls.set index later } := by
  have sound := inv.sound index call hcall
  -- Another rotation would not let this call hold a token.
  have hstill : ∀ other entry, other ≠ index → world.calls[other]? = some entry →
      world.rotates other entry = false := by
    intro other entry hother hentry
    by_contra hrotating
    exact hheld (inv.alone other entry hentry (Bool.eq_true_of_not_eq_false hrotating) index call
      (Ne.symm hother) hcall).1
  refine { ids := hsessions ▸ inv.ids, unrevoked := hsessions ▸ inv.unrevoked, busy := ?busy
           sound := ?sound, alone := ?alone, stored := ?stored }
  case busy =>
    intro pid hpid
    by_cases hsame : pid = index
    · subst hsame
      obtain ⟨token, drawn, hexchange⟩ := hbusy hpid
      exact ⟨later, token, drawn, set_self hcall, hexchange⟩
    · obtain ⟨entry, token, drawn, hentry, hexchange⟩ :=
        inv.busy pid (hothers pid hsame ▸ hpid)
      exact ⟨entry, token, drawn, set_other hsame hentry, hexchange⟩
  case sound =>
    intro other entry hentry
    rcases of_set hentry with ⟨rfl, rfl⟩ | ⟨hsame, hentry⟩
    · refine ⟨?_, ?_, fun tokens h => absurd h (hunissued tokens).2, fun caller tokens h => ?_,
        fun h => ?_⟩
      · exact hsessions ▸ hserves
      · exact hsessions ▸ fun token h => sound.held token (hholds token h)
      · exact absurd (sound.body caller tokens (hphase ▸ h)) (hunissued tokens).1
      · exact absurd (sound.calm (hphase ▸ h)) hsent
    · exact (inv.sound other entry hentry).keep hsessions (hothers other hsame)
  case alone =>
    intro place found hfound hrotating other entry hother hentry
    rcases of_set hfound with ⟨rfl, rfl⟩ | ⟨hplace, hfound⟩
    · rcases of_set hentry with ⟨rfl, -⟩ | ⟨-, hentry⟩
      · exact absurd rfl hother
      · refine ⟨?_, (rotates_eq rfl (hothers other hother)).trans
          (hstill other entry hother hentry)⟩
        rcases hrotates hrotating with hrotating | hnone
        · exact (inv.alone place call hcall hrotating other entry hother hentry).1
        · exact hnone other entry hother hentry
    · have h := (rotates_eq rfl (hothers place hplace)).symm.trans hrotating
      rw [hstill place found hplace hfound] at h
      cases h
  case stored =>
    intro hnone token htoken
    change Current hmacRefreshToken server.sessions token
    rw [hsessions]
    refine inv.stored (fun other entry tokens hentry hexchange => ?_) token htoken
    by_cases hsame : other = index
    · subst hsame
      cases hcall.symm.trans hentry
      exact (hunissued tokens).1 hexchange
    · exact hnone other entry tokens (set_other hsame hentry) hexchange

theorem rowsOf_rotated (sessions : List SessionRow) (refreshToken sessionId : String) (now : Int) :
    rowsOf hmacRefreshToken (sessions.map (SessionStore.rotateSession sessionId now)) refreshToken =
      (rowsOf hmacRefreshToken sessions refreshToken).map
        (SessionStore.rotateSession sessionId now) := by
  unfold rowsOf
  rw [List.filter_map]
  congr 2
  funext row
  have hkept : (SessionStore.rotateSession sessionId now row).refreshTokenHash =
      row.refreshTokenHash := by
    unfold SessionStore.rotateSession
    split <;> rfl
  simp only [Function.comp, hkept]

/-- The commit of a rotation. -/
theorem Inv.rotated (inv : Inv hmacRefreshToken world) (hcall : world.calls[index]? = some call)
    (hexchange : call.exchange = .serving token drawn) {row successor : SessionRow} {now : Int}
    (hprocess : world.server.processes index = .rotated row successor now) {tokens : Tokens}
    (hdrawn : drawn = some tokens) :
    Inv hmacRefreshToken { world with
      server := world.server.finish index fun rows =>
        rows.map (SessionStore.rotateSession row.sessionId now) ++ [successor]
      calls := world.calls.set index { call with exchange := .answered (.issued tokens) } } := by
  have serves := (inv.sound index call hcall).serves token drawn hexchange
  rw [hprocess] at serves
  obtain ⟨hrow, tokens', htokens', hhash, hfresh, hid, hactive⟩ := serves
  cases hdrawn.symm.trans htokens'
  have hrotates : world.rotates index call = true := by
    unfold World.rotates
    rw [hexchange, hprocess]
  have halone := inv.alone index call hcall hrotates
  have hunserved : ∀ other entry token drawn, other ≠ index → world.calls[other]? = some entry →
      entry.exchange ≠ .serving token drawn := by
    intro other entry token drawn hother hentry hserving
    have hnone := (halone other entry hother hentry).1
    rw [holds_of_serving hserving] at hnone
    cases hnone
  have sound := inv.sound index call hcall
  refine { ids := ?ids, unrevoked := ?unrevoked, busy := ?busy, sound := ?sound
           alone := ?alone, stored := fun hnone => absurd rfl (hnone index _ tokens (set_self hcall)) }
  case ids =>
    change ((world.server.sessions.map _ ++ [successor]).map SessionRow.sessionId).Nodup
    have hsame : (world.server.sessions.map (SessionStore.rotateSession row.sessionId now)).map
        SessionRow.sessionId = world.server.sessions.map SessionRow.sessionId := by
      rw [List.map_map]
      refine List.map_congr_left fun other _ => ?_
      unfold Function.comp SessionStore.rotateSession
      split <;> rfl
    rw [List.map_append, hsame, List.map_singleton]
    exact inv.ids.append (List.nodup_singleton _) (List.disjoint_singleton.mpr hid)
  case unrevoked =>
    intro other hother
    change other ∈ world.server.sessions.map _ ++ [successor] at hother
    rcases List.mem_append.mp hother with hold | hnew
    · obtain ⟨old, hmember, rfl⟩ := List.mem_map.mp hold
      unfold SessionStore.rotateSession
      split
      · nofun
      · exact inv.unrevoked old hmember
    · obtain rfl := List.mem_singleton.mp hnew
      rw [hactive]
      nofun
  case busy =>
    intro pid hpid
    by_cases hsame : pid = index
    · subst hsame
      exact absurd (Function.update_self ..) hpid
    · have hold : world.server.processes pid ≠ .idle := by
        intro hidle
        exact hpid ((Function.update_of_ne hsame ..).trans hidle)
      obtain ⟨entry, token, drawn, hentry, hserving⟩ := inv.busy pid hold
      exact absurd hserving (hunserved pid entry token drawn hsame hentry)
  case sound =>
    intro other entry hentry
    rcases of_set hentry with ⟨rfl, rfl⟩ | ⟨hsame, hentry⟩
    · refine ⟨nofun, fun token h => (by cases h), fun issued hissued => ?_, fun caller issued h => ?_,
        fun h => ?_⟩
      · obtain rfl := Answer.issued.inj (Exchange.answered.inj hissued)
        refine ⟨successor, ?_, hactive⟩
        change rowsOf hmacRefreshToken (world.server.sessions.map _ ++ [successor]) _ = _
        have hmapped : rowsOf hmacRefreshToken (world.server.sessions.map
            (SessionStore.rotateSession row.sessionId now)) tokens.refreshToken = _ :=
          rowsOf_rotated world.server.sessions tokens.refreshToken row.sessionId now
        have hnew : rowsOf hmacRefreshToken [successor] tokens.refreshToken = [successor] :=
          List.filter_cons_of_pos (by simpa using hhash)
        rw [hfresh] at hmapped
        unfold rowsOf at hmapped hnew ⊢
        rw [List.filter_append, hmapped, hnew]
        rfl
      · cases hexchange.symm.trans (sound.body caller issued h)
      · cases hexchange.symm.trans (sound.calm h)
    · obtain ⟨hnone, hstill⟩ := halone other entry hsame hentry
      have kept := inv.sound other entry hentry
      refine ⟨fun token drawn h => absurd h (hunserved other entry token drawn hsame hentry),
        fun token h => ?_, fun issued h => ?_, kept.body, kept.calm⟩
      · cases hnone.symm.trans h
      · unfold World.rotates at hstill
        rw [h] at hstill
        cases hstill
  case alone =>
    intro place found hfound hrotating other entry hother hentry
    rcases of_set hfound with ⟨rfl, rfl⟩ | ⟨hplace, hfound⟩
    · rcases of_set hentry with ⟨rfl, -⟩ | ⟨-, hentry⟩
      · exact absurd rfl hother
      · obtain ⟨hnone, hstill⟩ := halone other entry hother hentry
        exact ⟨hnone, (rotates_eq rfl (Function.update_of_ne hother ..)).trans hstill⟩
    · have h := (rotates_eq rfl (Function.update_of_ne hplace ..)).symm.trans hrotating
      rw [(halone place found hplace hfound).2] at h
      cases h

end

section

variable {hmacAccessToken hmacRefreshToken : String → Bytes} {world next : World} {index : Nat}
  {call : ApiCall} {server : Sys} {token : String} {drawn : Option Tokens} {row : SessionRow}
  {sys : Sys} {sessionId : String} {credential : CredentialReading} {now : Int} {action : Action}

theorem Current.active {sessions : List SessionRow}
    (current : Current hmacRefreshToken sessions token)
    (hrow : rowsOf hmacRefreshToken sessions token = [row]) : row.state = .active := by
  obtain ⟨other, hother, hactive⟩ := current
  rw [hrow] at hother
  rw [(List.cons.inj hother).1]
  exact hactive

theorem Inv.find_session (inv : Inv hmacRefreshToken world) {found : SessionRow}
    (hrow : rowsOf hmacRefreshToken world.server.sessions token = [row])
    (hfound : world.server.sessions.find?
      (fun other => decide (other.sessionId = row.sessionId)) = some found) : found = row := by
  have hmember : row ∈ world.server.sessions := by
    have h : row ∈ rowsOf hmacRefreshToken world.server.sessions token :=
      hrow ▸ List.mem_singleton_self row
    exact (List.mem_filter.mp h).1
  have hselected := List.find?_some hfound
  have hid : found.sessionId = row.sessionId := of_decide_eq_true hselected
  exact List.inj_on_of_nodup_map inv.ids (List.mem_of_find?_eq_some hfound) hmember hid

theorem waiting_forms (hprocess : sys.processes index = .waiting sessionId credential now)
    (hof : ofRefresh action = true) (h : SessionStore.step sys index action = some server) :
    (action = .lockSession ∧ ∃ row,
        sys.sessions.find? (fun other => decide (other.sessionId = sessionId)) = some row ∧
          server = sys.take index sessionId (.holding row credential now)) ∨
      action = .abort ∧ server = sys.finish index id := by
  unfold SessionStore.step at h
  rw [hprocess] at h
  cases action with
  | lockSession =>
    dsimp only at h
    split at h
    · obtain ⟨found, hfound, rfl⟩ := Option.map_eq_some_iff.mp h
      exact .inl ⟨rfl, found, hfound, rfl⟩
    · cases h
  | abort => exact .inr ⟨rfl, (Option.some.inj h).symm⟩
  | detectReuse | rotate | visitRow _ | commit => cases h
  | _ => cases hof

theorem holding_forms (hprocess : sys.processes index = .holding row credential now)
    (hof : ofRefresh action = true) (h : SessionStore.step sys index action = some server) :
    (action = .detectReuse ∧ (row.state = .rotated ∨ row.state = .revoked)) ∨
      (action = .rotate ∧ server = sys.put index (.rotating row credential now)) ∨
      (action = .commit ∨ action = .abort) ∧ server = sys.finish index id := by
  unfold SessionStore.step at h
  rw [hprocess] at h
  cases action with
  | detectReuse =>
    dsimp only at h
    split at h
    · next hreuse => exact .inl ⟨rfl, hreuse⟩
    · cases h
  | rotate =>
    dsimp only at h
    split at h
    · exact .inr (.inl ⟨rfl, (Option.some.inj h).symm⟩)
    · cases h
  | commit =>
    obtain ⟨change, hchange, rfl⟩ := Option.map_eq_some_iff.mp h
    unfold SessionStore.committedChange at hchange
    dsimp only at hchange
    split at hchange
    · cases hchange
    · cases hchange
      exact .inr (.inr ⟨.inl rfl, rfl⟩)
  | abort => exact .inr (.inr ⟨.inr rfl, (Option.some.inj h).symm⟩)
  | lockSession => cases h
  | visitRow _ => cases h
  | _ => cases hof

theorem rotating_forms (hprocess : sys.processes index = .rotating row credential now)
    (hof : ofRefresh action = true) (h : SessionStore.step sys index action = some server) :
    action = .abort ∧ server = sys.finish index id := by
  unfold SessionStore.step at h
  rw [hprocess] at h
  cases action with
  | abort => exact ⟨rfl, (Option.some.inj h).symm⟩
  | lockSession | detectReuse | rotate | visitRow _ | commit => cases h
  | _ => cases hof

theorem rotated_forms {successor : SessionRow}
    (hprocess : sys.processes index = .rotated row successor now) (hof : ofRefresh action = true)
    (h : SessionStore.step sys index action = some server) :
    (action = .commit ∧ server = sys.finish index fun rows =>
        rows.map (SessionStore.rotateSession row.sessionId now) ++ [successor]) ∨
      action = .abort ∧ server = sys.finish index id := by
  unfold SessionStore.step at h
  rw [hprocess] at h
  cases action with
  | commit =>
    obtain ⟨change, hchange, rfl⟩ := Option.map_eq_some_iff.mp h
    cases hchange
    exact .inl ⟨rfl, rfl⟩
  | abort => exact .inr ⟨rfl, (Option.some.inj h).symm⟩
  | lockSession | detectReuse | rotate | visitRow _ => cases h
  | _ => cases hof

theorem Inv.end_unrotated (inv : Inv hmacRefreshToken world)
    (hcall : world.calls[index]? = some call) (hexchange : call.exchange = .serving token drawn)
    (status : Nat) :
    Inv hmacRefreshToken { world.setExchange index call (.answered (.refused status)) with
      server := world.server.finish index id } := by
  have hidle : (world.server.finish index id).processes index = .idle := Function.update_self ..
  refine inv.served hcall ?_ ?_ rfl rfl (fun pid hpid => Function.update_of_ne hpid ..)
    (fun hbusy => absurd hidle hbusy) (fun _ _ h => nomatch h) (fun tokens => ⟨?_, nofun⟩)
    (fun token h => ?_) (fun h => ?_)
  · rw [holds_of_serving hexchange]
    nofun
  · rw [hexchange]
    nofun
  · rw [hexchange]
    nofun
  · unfold ApiCall.holds at h
    cases h
  · cases h

theorem Inv.go_on (inv : Inv hmacRefreshToken world) (hcall : world.calls[index]? = some call)
    (hexchange : call.exchange = .serving token drawn)
    (hsessions : server.sessions = world.server.sessions)
    (hothers : ∀ pid, pid ≠ index → server.processes pid = world.server.processes pid)
    {later : Option Tokens}
    (hserves : Serves hmacRefreshToken world.server.sessions token later (server.processes index))
    (hrotates : (∀ row credential now,
        server.processes index ≠ .holding row credential now) →
      world.rotates index call = true ∨
        ∀ other entry, other ≠ index → world.calls[other]? = some entry → entry.holds = none) :
    Inv hmacRefreshToken { world.setExchange index call (.serving token later) with
      server := server } := by
  refine inv.served hcall ?_ ?_ rfl hsessions hothers (fun _ => ⟨token, later, rfl⟩)
    (fun other otherDrawn h => ?_) (fun tokens => ⟨?_, nofun⟩) (fun held h => ?_)
    fun h => hrotates fun row credential now hholding => ?_
  · rw [holds_of_serving hexchange]
    nofun
  · rw [hexchange]
    nofun
  · obtain ⟨rfl, rfl⟩ := Exchange.serving.inj h
    exact hserves
  · rw [hexchange]
    nofun
  · rw [holds_of_serving hexchange]
    exact h
  · unfold World.rotates at h
    dsimp only at h
    rw [hholding] at h
    cases h

theorem Inv.serve (inv : Inv hmacRefreshToken world) (hcall : world.calls[index]? = some call)
    (hexchange : call.exchange = .serving token drawn)
    (guard : action = .rotate → ∀ other entry, other ≠ index → world.calls[other]? = some entry →
      entry.holds = none) (hof : ofRefresh action = true)
    (h : SessionStore.step world.server index action = some server) :
    Inv hmacRefreshToken
      { world.setExchange index call
          (match answerOf action (world.server.processes index) drawn with
            | some answer => .answered answer
            | none => .serving token drawn) with server := server } := by
  have serves := (inv.sound index call hcall).serves token drawn hexchange
  cases hprocess : world.server.processes index with
  | idle | authenticated _ | issuing _ | revoking _ => rw [hprocess] at serves; exact serves.elim
  | waiting sessionId credential now =>
    rw [hprocess] at serves
    obtain ⟨row, hrow, rfl⟩ := serves
    rcases waiting_forms hprocess hof h with ⟨rfl, found, hfound, rfl⟩ | ⟨rfl, rfl⟩
    · obtain rfl := inv.find_session hrow hfound
      have hholding : (world.server.take index found.sessionId
          (.holding found credential now)).processes index = .holding found credential now :=
        Function.update_self ..
      have hsessions : (world.server.take index found.sessionId
          (.holding found credential now)).sessions = world.server.sessions := rfl
      refine inv.go_on hcall hexchange hsessions (fun pid hpid => Function.update_of_ne hpid ..)
        ?_ fun hnot => absurd hholding (hnot found credential now)
      rw [hholding]
      exact hrow
    · exact inv.end_unrotated hcall hexchange 500
  | holding row credential now =>
    rw [hprocess] at serves
    have current := (inv.sound index call hcall).held token (holds_of_serving hexchange)
    rcases holding_forms hprocess hof h with ⟨rfl, hreuse⟩ | ⟨rfl, rfl⟩ | ⟨rfl | rfl, rfl⟩
    · rw [current.active serves] at hreuse
      rcases hreuse with hreuse | hreuse <;> cases hreuse
    · have hsessions : (world.server.put index (.rotating row credential now)).sessions =
          world.server.sessions := rfl
      refine inv.go_on hcall hexchange hsessions (fun pid hpid => Function.update_of_ne hpid ..)
        ?_ fun _ => .inr (guard rfl)
      have hself : (world.server.put index (.rotating row credential now)).processes index =
          .rotating row credential now := Function.update_self ..
      rw [hself]
      exact serves
    · exact inv.end_unrotated hcall hexchange 401
    · exact inv.end_unrotated hcall hexchange 500
  | rotating row credential now =>
    obtain ⟨rfl, rfl⟩ := rotating_forms hprocess hof h
    exact inv.end_unrotated hcall hexchange 500
  | rotated row successor now =>
    rw [hprocess] at serves
    obtain ⟨-, tokens, rfl, -⟩ := serves
    rcases rotated_forms hprocess hof h with ⟨rfl, rfl⟩ | ⟨rfl, rfl⟩
    · exact inv.rotated hcall hexchange hprocess rfl
    · exact inv.end_unrotated hcall hexchange 500

theorem Inv.insert (inv : Inv hmacRefreshToken world) (hcall : world.calls[index]? = some call)
    (hexchange : call.exchange = .serving token drawn) {tokens : Tokens}
    (hhash : hmacRefreshToken tokens.refreshToken ∉
      world.server.sessions.map SessionRow.refreshTokenHash)
    (hid : sessionId ∉ world.server.sessions.map SessionRow.sessionId)
    (h : SessionStore.step world.server index (.insertSuccessor ⟨sessionId,
      hmacAccessToken tokens.accessToken, hmacRefreshToken tokens.refreshToken⟩) = some server) :
    Inv hmacRefreshToken { world.setExchange index call (.serving token (some tokens)) with
      server := server } := by
  have serves := (inv.sound index call hcall).serves token drawn hexchange
  unfold SessionStore.step at h
  cases hprocess : world.server.processes index with
  | rotating row credential now =>
    rw [hprocess] at serves h
    dsimp only at h
    split at h
    · cases h
      let successor := SessionStore.successorSession row credential ⟨sessionId,
        hmacAccessToken tokens.accessToken, hmacRefreshToken tokens.refreshToken⟩ now
      let inserted := (world.server.put index (.rotated row successor now)).draw [sessionId]
      have hself : inserted.processes index = .rotated row successor now :=
        Function.update_self ..
      have hsessions : inserted.sessions = world.server.sessions := rfl
      have hrotates : world.rotates index call = true := by
        unfold World.rotates
        rw [hexchange, hprocess]
      have hserves : Serves hmacRefreshToken world.server.sessions token (some tokens)
          (inserted.processes index) := by
        rw [hself]
        refine ⟨serves, tokens, rfl, rfl, ?_, hid, rfl⟩
        refine List.filter_eq_nil_iff.mpr fun other hother hsame => hhash ?_
        rw [← of_decide_eq_true hsame]
        exact List.mem_map_of_mem hother
      exact inv.go_on hcall hexchange hsessions (fun pid hpid => Function.update_of_ne hpid ..)
        hserves fun _ => .inl hrotates
    · cases h
  | idle | authenticated _ | issuing _ | revoking _ => rw [hprocess] at serves; exact serves.elim
  | waiting _ _ _ | holding _ _ _ | rotated _ _ _ => rw [hprocess] at h; cases h

theorem Inv.receive (inv : Inv hmacRefreshToken world) (hcall : world.calls[index]? = some call)
    (hexchange : call.exchange = .sent token) :
    (∀ status, Inv hmacRefreshToken (world.setExchange index call
      (.answered (.refused status)))) ∧
    ∀ credential now server, SessionStore.step world.server index
        (.refreshSession (hmacRefreshToken token) credential now) = some server →
      Inv hmacRefreshToken { world.setExchange index call (.serving token none) with
        server := server } := by
  have hheld : call.holds = some token := by
    unfold ApiCall.holds
    rw [hexchange]
  have hpending : call.holds ≠ none := by
    rw [hheld]
    nofun
  have hunissued : ∀ tokens, call.exchange ≠ .answered (.issued tokens) := by
    intro tokens
    rw [hexchange]
    nofun
  have hsent : call.exchange ≠ .idle := by
    rw [hexchange]
    nofun
  have hidle : world.server.processes index = .idle := by
    by_contra hbusy
    obtain ⟨entry, other, drawn, hentry, hserving⟩ := inv.busy index hbusy
    cases hcall.symm.trans hentry
    rw [hexchange] at hserving
    cases hserving
  refine ⟨fun status => ?_, fun credential now server h => ?_⟩
  · refine inv.served hcall hpending hsent rfl rfl (fun _ _ => rfl) (fun h => absurd hidle h)
      (fun _ _ h => nomatch h) (fun tokens => ⟨hunissued tokens, nofun⟩) (fun held h => ?_)
      fun h => ?_
    · unfold ApiCall.holds at h
      cases h
    · cases h
  · unfold SessionStore.step at h
    rw [hidle] at h
    obtain ⟨row, hrow, rfl⟩ := Option.map_eq_some_iff.mp h
    have hself : (world.server.put index (.waiting row.sessionId credential now)).processes index =
        .waiting row.sessionId credential now := Function.update_self ..
    have hsessions : (world.server.put index (.waiting row.sessionId credential now)).sessions =
        world.server.sessions := rfl
    refine inv.served hcall hpending hsent rfl hsessions
      (fun pid hpid => Function.update_of_ne hpid ..) (fun _ => ⟨token, none, rfl⟩)
      (fun other drawn h => ?_) (fun tokens => ⟨hunissued tokens, nofun⟩) (fun held h => ?_)
      fun h => ?_
    · obtain ⟨rfl, rfl⟩ := Exchange.serving.inj h
      rw [hself]
      exact ⟨row, onlyRow_eq_some.mp hrow, rfl⟩
    · rw [hheld]
      exact h
    · unfold World.rotates at h
      dsimp only at h
      rw [hself] at h
      cases h

end

section

variable {hmacAccessToken hmacRefreshToken : String → Bytes} {world next : World} {index : Nat}
  {call : ApiCall} {phase : Phase} {event : Event}

theorem given_phase (caller : Caller) :
    caller.given.token = none ∧ ∀ other tokens, caller.given ≠ .refreshBody other tokens := by
  cases caller <;> exact ⟨rfl, nofun⟩

theorem resumed_phase (caller : Caller) :
    caller.resumed.token = none ∧ ∀ other tokens, caller.resumed ≠ .refreshBody other tokens := by
  cases caller <;> exact ⟨rfl, nofun⟩

theorem token_of_requested (h : phase.requested = true) : phase.token = none := by
  cases phase <;> first | rfl | cases h

theorem Inv.setPhase (inv : Inv hmacRefreshToken world) (hcall : world.calls[index]? = some call)
    (hrequested : phase.requested = false → call.phase.requested = false)
    (htoken : ∀ token, phase.token = some token → call.phase.token = some token ∨
      world.stored = some token ∧ world.Quiet)
    (hbody : ∀ caller tokens, phase = .refreshBody caller tokens →
      call.exchange = .answered (.issued tokens)) :
    Inv hmacRefreshToken (world.setPhase index call phase) := by
  refine inv.proceed hcall (fun _ _ => Iff.rfl) (fun _ h => h) hbody
    (fun h => (inv.sound index call hcall).calm (hrequested h)) (fun token h => ?_)
    (.inl ⟨rfl, .inl rfl⟩)
  unfold ApiCall.holds at h ⊢
  dsimp only at h
  split at h
  · exact htoken token h
  · exact .inl h
  · exact .inl h
  · cases h

theorem Inv.settle (inv : Inv hmacRefreshToken world) (hcall : world.calls[index]? = some call)
    {answer : Answer} (hexchange : call.exchange = .answered answer) {stored : Option String}
    {access : Nat → Option String}
    (hphase : phase.token = none ∧ ∀ caller tokens, phase ≠ .refreshBody caller tokens)
    (hstored : stored = world.stored ∧ (∀ tokens, answer ≠ .issued tokens) ∨
      ∀ token, stored = some token → Current hmacRefreshToken world.server.sessions token) :
    Inv hmacRefreshToken { world with
      stored := stored
      access := access
      calls := world.calls.set index { call with
        phase := phase
        exchange := .idle } } := by
  refine inv.proceed hcall (fun token drawn => ?_) nofun
    (fun caller tokens h => absurd h (hphase.2 caller tokens)) (fun _ => rfl)
    (fun token h => ?_) ?_
  · rw [hexchange]
    exact ⟨nofun, nofun⟩
  · have hnone := hphase.1.symm.trans h
    cases hnone
  · rcases hstored with ⟨rfl, hrefused⟩ | hcurrent
    · refine .inl ⟨rfl, .inr fun tokens h => ?_⟩
      rw [hexchange] at h
      exact hrefused tokens (Exchange.answered.inj h)
    · exact .inr hcurrent

theorem Inv.tryRefresh (inv : Inv hmacRefreshToken world) (hcall : world.calls[index]? = some call)
    (caller : Caller) (hcalm : call.phase.requested = false)
    (quiet : world.Quiet) :
    Inv hmacRefreshToken (world.tryRefresh index call caller) :=
  inv.setPhase hcall (fun _ => hcalm) (fun _ h => .inr ⟨h, quiet⟩) nofun

section

variable (inv : Inv hmacRefreshToken world) (hcall : world.calls[index]? = some call)

include inv hcall

theorem Inv.idbGet {present : Bool} (guard : Guard (.idbGet index present) world)
    (h : callStep hmacAccessToken hmacRefreshToken (.idbGet index present) index call world =
      some next) : Inv hmacRefreshToken next := by
  unfold SessionRefresh.callStep at h
  cases hphase : call.phase with
  | device =>
    rw [hphase] at h
    dsimp only at h
    split at h
    · cases h
      exact inv.setPhase hcall (fun _ => by rw [hphase]; rfl) nofun nofun
    · next hmissing =>
        cases h
        refine inv.tryRefresh hcall .first (by rw [hphase]; rfl) (guard.1 ?_)
        unfold reads
        dsimp only
        rw [hcall, Option.any_some, hphase, Bool.eq_false_iff.mpr hmissing]
        rfl
  | record caller refreshToken =>
    rw [hphase] at h
    have hgiven : Inv hmacRefreshToken (world.setPhase index call caller.given) :=
      inv.setPhase hcall (fun _ => by rw [hphase]; rfl)
        (fun token h => nomatch (given_phase caller).1.symm.trans h)
        fun other tokens h => absurd h ((given_phase caller).2 other tokens)
    dsimp only at h
    split at h
    · split at h
      · cases h
        exact inv.setPhase hcall (fun _ => by rw [hphase]; rfl)
          (fun token h => .inl (by rw [hphase]; exact h)) nofun
      · exact Option.some.inj h ▸ hgiven
    · exact Option.some.inj h ▸ hgiven
  | active =>
    rw [hphase] at h
    dsimp only at h
    split at h <;>
    · cases h
      exact inv.setPhase hcall (fun _ => by rw [hphase]; rfl) nofun nofun
  | _ =>
    rw [hphase] at h
    cases h

theorem Inv.dpopProof
    (h : callStep hmacAccessToken hmacRefreshToken (.dpopProof index) index call world =
      some next) : Inv hmacRefreshToken next := by
  unfold SessionRefresh.callStep at h
  cases hphase : call.phase with
  | signing caller token =>
    rw [hphase] at h
    cases h
    have hidle := (inv.sound index call hcall).calm (by rw [hphase]; rfl)
    refine inv.proceed hcall (fun other drawn => ?_) nofun nofun nofun (fun other h => .inl ?_)
      (.inl ⟨rfl, .inr fun tokens => ?_⟩)
    · rw [hidle]
      exact ⟨nofun, nofun⟩
    · unfold ApiCall.holds
      rw [hidle, hphase]
      exact h
    · rw [hidle]
      nofun
  | proving retried =>
    rw [hphase] at h
    cases h
    exact inv.setPhase hcall (fun _ => by rw [hphase]; rfl) nofun nofun
  | _ =>
    rw [hphase] at h
    cases h

theorem Inv.refreshAnswer
    (h : callStep hmacAccessToken hmacRefreshToken (.refreshAnswer index) index call world =
      some next) : Inv hmacRefreshToken next := by
  unfold SessionRefresh.callStep at h
  split at h <;> try contradiction
  · next caller status _ hphase hexchange =>
      cases h
      split
      · exact inv.settle hcall hexchange (given_phase caller) (.inr nofun)
      · exact inv.settle hcall hexchange (given_phase caller) (.inl ⟨rfl, nofun⟩)
  · next caller tokens _ hphase hexchange =>
      cases h
      refine inv.setPhase hcall nofun nofun fun other body h => ?_
      obtain ⟨-, rfl⟩ := Phase.refreshBody.inj h
      exact hexchange

theorem Inv.lose
    (h : callStep hmacAccessToken hmacRefreshToken (.lose index) index call world = some next) :
    Inv hmacRefreshToken next := by
  unfold SessionRefresh.callStep at h
  split at h <;> try contradiction
  next token _ hexchange =>
    cases h
    have sound := inv.sound index call hcall
    have hrequested : call.phase.requested = true := by
      by_contra hcalm
      cases hexchange.symm.trans (sound.calm (Bool.eq_false_iff.mpr hcalm))
    refine inv.proceed hcall (fun other drawn => ?_) nofun (fun caller tokens hbody => ?_)
      (fun _ => rfl) (fun other h => ?_) (.inl ⟨rfl, .inr fun tokens => ?_⟩)
    · rw [hexchange]
      exact ⟨nofun, nofun⟩
    · cases hexchange.symm.trans (sound.body caller tokens hbody)
    · cases (token_of_requested hrequested).symm.trans h
    · rw [hexchange]
      nofun

theorem Inv.refreshJson
    (h : callStep hmacAccessToken hmacRefreshToken (.refreshJson index) index call world =
      some next) : Inv hmacRefreshToken next := by
  unfold SessionRefresh.callStep at h
  split at h <;> try contradiction
  next caller tokens _ hphase =>
    cases h
    have sound := inv.sound index call hcall
    have hexchange := sound.body caller tokens hphase
    refine inv.settle hcall hexchange (resumed_phase caller) (.inr fun token h => ?_)
    cases h
    exact sound.issued tokens hexchange

theorem Inv.respond {status : Nat} (guard : Guard (.respond index status) world)
    (h : callStep hmacAccessToken hmacRefreshToken (.respond index status) index call world =
      some next) : Inv hmacRefreshToken next := by
  unfold SessionRefresh.callStep at h
  cases hphase : call.phase with
  | response retried =>
    rw [hphase] at h
    dsimp only at h
    split at h
    · next hunauthorized =>
        obtain ⟨rfl, rfl⟩ := hunauthorized
        cases h
        refine inv.tryRefresh hcall .retry (by rw [hphase]; rfl) (guard.1 ?_)
        unfold reads
        dsimp only
        rw [hcall, Option.any_some]
        exact decide_eq_true ⟨hphase, rfl⟩
    · cases h
      exact inv.setPhase hcall (fun _ => by rw [hphase]; rfl) nofun nofun
  | _ =>
    rw [hphase] at h
    cases h

end

theorem Inv.callStep (inv : Inv hmacRefreshToken world) (hcall : world.calls[index]? = some call)
    (hindex : event.index? = some index) (guard : Guard event world)
    (h : callStep hmacAccessToken hmacRefreshToken event index call world = some next) :
    Inv hmacRefreshToken next := by
  cases event with
  | api _ => cases hindex
  | restoreSession _ => cases hindex
  | idbGet place present =>
    cases hindex
    exact inv.idbGet hcall guard h
  | dpopProof place =>
    cases hindex
    exact inv.dpopProof hcall h
  | refreshAnswer place =>
    cases hindex
    exact inv.refreshAnswer hcall h
  | refreshJson place =>
    cases hindex
    exact inv.refreshJson hcall h
  | respond place status =>
    cases hindex
    exact inv.respond hcall guard h
  | fail place =>
    unfold SessionRefresh.callStep at h
    split at h <;> try contradiction
    cases h
    exact inv.setPhase hcall nofun nofun nofun
  | lose place =>
    cases hindex
    exact inv.lose hcall h
  | receive place refusal credential now =>
    unfold SessionRefresh.callStep at h
    split at h <;> try contradiction
    next token heq hexchange =>
      obtain ⟨hrefused, hserving⟩ := inv.receive hcall hexchange
      split at h
      · exact Option.some.inj h ▸ hrefused _
      · exact Option.some.inj h ▸ hrefused _
      · next server hserver =>
          cases h
          exact hserving _ _ server hserver
  | serve place action =>
    cases hindex
    unfold SessionRefresh.callStep at h
    split at h <;> try contradiction
    next token drawn heq hexchange =>
      obtain ⟨rfl, rfl⟩ := Event.serve.inj heq
      split at h
      · next hof =>
          obtain ⟨server, hserver, rfl⟩ := Option.map_eq_some_iff.mp h
          refine inv.serve hcall hexchange (fun hrotate other entry hother hentry => ?_) hof hserver
          have hguard := guard.2
          rw [hrotate] at hguard
          exact hguard (entry, other) (List.mem_zipIdx_iff_getElem?.mpr hentry) hother
      · cases h
  | insertSuccessor place sessionId tokens =>
    unfold SessionRefresh.callStep at h
    split at h <;> try contradiction
    next token drawn heq hexchange =>
      dsimp only at h
      split at h
      · next hfresh =>
          obtain ⟨server, hserver, rfl⟩ := Option.map_eq_some_iff.mp h
          exact inv.insert hcall hexchange hfresh.1 hfresh.2 hserver
      · cases h

theorem Inv.called (inv : Inv hmacRefreshToken world) {added : ApiCall}
    (hidle : added.exchange = .idle)
    (hbody : ∀ caller tokens, added.phase ≠ .refreshBody caller tokens)
    (hholds : ∀ token, added.phase.token = some token → world.stored = some token ∧ world.Quiet) :
    Inv hmacRefreshToken { world with calls := world.calls ++ [added] } := by
  have hcases : ∀ {place : Nat} {entry : ApiCall}, (world.calls ++ [added])[place]? = some entry →
      world.calls[place]? = some entry ∨ entry = added := by
    intro place entry hentry
    rcases Nat.lt_or_ge place world.calls.length with hlt | hge
    · rw [List.getElem?_append_left hlt] at hentry
      exact .inl hentry
    · rw [List.getElem?_append_right hge, List.getElem?_singleton] at hentry
      split_ifs at hentry
      exact .inr (Option.some.inj hentry).symm
  have hkept : ∀ {place : Nat} {entry : ApiCall}, world.calls[place]? = some entry →
      (world.calls ++ [added])[place]? = some entry := by
    intro place entry hentry
    rw [List.getElem?_append_left (List.getElem?_eq_some_iff.mp hentry).1]
    exact hentry
  have hstill : ∀ place, world.rotates place added = false := by
    intro place
    unfold World.rotates
    rw [hidle]
  have hheld : ∀ token, added.holds = some token → world.stored = some token ∧ world.Quiet := by
    intro token h
    unfold ApiCall.holds at h
    rw [hidle] at h
    exact hholds token h
  refine { ids := inv.ids, unrevoked := inv.unrevoked, busy := ?busy, sound := ?sound
           alone := ?alone, stored := ?stored }
  case busy =>
    intro pid hpid
    obtain ⟨entry, token, drawn, hentry, hserving⟩ := inv.busy pid hpid
    exact ⟨entry, token, drawn, hkept hentry, hserving⟩
  case sound =>
    intro place entry hentry
    rcases hcases hentry with hold | rfl
    · exact inv.sound place entry hold
    · refine ⟨fun token drawn h => ?_, fun token h => ?_, fun tokens h => ?_,
        fun caller tokens h => absurd h (hbody caller tokens), fun _ => hidle⟩
      · cases hidle.symm.trans h
      · exact inv.current (hheld token h).1 (hheld token h).2
      · cases hidle.symm.trans h
  case alone =>
    intro place found hfound hrotating other entry hother hentry
    change world.rotates place found = true at hrotating
    change entry.holds = none ∧ world.rotates other entry = false
    rcases hcases hfound with hold | rfl
    · rcases hcases hentry with hentry | rfl
      · exact inv.alone place found hold hrotating other entry hother hentry
      · refine ⟨Option.eq_none_iff_forall_ne_some.mpr fun token htoken => ?_, hstill other⟩
        cases hrotating.symm.trans ((hheld token htoken).2.still hold)
    · cases hrotating.symm.trans (hstill place)
  case stored =>
    intro hnone token htoken
    exact inv.stored (fun place entry tokens hentry => hnone place entry tokens (hkept hentry))
      token htoken

theorem Inv.step (inv : Inv hmacRefreshToken world) (guard : Guard event world)
    (h : step hmacAccessToken hmacRefreshToken event world = some next) :
    Inv hmacRefreshToken next := by
  unfold SessionRefresh.step at h
  split at h
  · cases h
    exact inv.called rfl nofun nofun
  · cases h
    exact inv.called rfl nofun fun token htoken => ⟨htoken, guard.1 rfl⟩
  · split at h
    · next index hindex =>
        split at h
        · next call hcall => exact inv.callStep hcall hindex guard h
        · cases h
    · cases h

theorem Inv.neverReused (inv : Inv hmacRefreshToken world) : world.NeverReused where
  unclassified pid row credential now hholding := by
    obtain ⟨call, token, drawn, hcall, hserving⟩ := inv.busy pid (by rw [hholding]; nofun)
    have sound := inv.sound pid call hcall
    have serves := sound.serves token drawn hserving
    rw [hholding] at serves
    have hactive := (sound.held token (holds_of_serving hserving)).active serves
    rw [hactive]
    exact ⟨nofun, nofun⟩
  unrevoked := inv.unrevoked

/-- As long as no call reads the stored token while it is being rotated or before its successor is
stored, and no token is rotated that another refresh has read, no refresh of the device is taken for
a reuse. -/
theorem never_reused (hmacAccessToken hmacRefreshToken : String → Bytes) (request : SessionRequest)
    (credential : CredentialReading) (tokenFamilyId sessionId : String) (tokens : Tokens)
    (now : Int) (tab : Nat) (events : List Event) (final : World)
    (guarded : Guarded (step hmacAccessToken hmacRefreshToken) Guard events
      (World.enrolled hmacAccessToken hmacRefreshToken request credential tokenFamilyId sessionId
        tokens now tab))
    (h : run (step hmacAccessToken hmacRefreshToken) events
      (World.enrolled hmacAccessToken hmacRefreshToken request credential tokenFamilyId sessionId
        tokens now tab) = some final) : final.NeverReused :=
  (invariant_of_run (fun _ _ _ (inv : Inv hmacRefreshToken _) guard hstep => inv.step guard hstep)
    (Inv.enrolled hmacAccessToken request credential tokenFamilyId sessionId tokens now tab)
    guarded h).neverReused

end

def sampleHmac (token : String) : Bytes := token.toList.map fun c => UInt8.ofNat c.toNat

def sampleCredential : CredentialReading :=
  ⟨"credential", "account", "installation", [7], 1, true, 100000000⟩

def sampleWorld : World :=
  World.enrolled sampleHmac sampleHmac ⟨"audience", "client"⟩ sampleCredential "family" "one"
    ⟨"a1", "r1"⟩ 1000 0

def sampleExpired (index : Nat) : List Event := [
  .api 0, .idbGet index true, .idbGet index true, .dpopProof index, .respond index 401,
  .idbGet index true, .dpopProof index]

def sampleServed (index : Nat) (sessionId : String) (tokens : Tokens) : List Event := [
  .receive index none sampleCredential 2000, .serve index .lockSession, .serve index .rotate,
  .insertSuccessor index sessionId tokens, .serve index .commit]

def sampleRepeated (index : Nat) : List Event := [
  .refreshAnswer index, .refreshJson index, .dpopProof index, .respond index 200]

def sampleInTurn : List Event :=
  sampleExpired 0 ++ sampleServed 0 "two" ⟨"a2", "r2"⟩ ++ sampleRepeated 0 ++
    sampleExpired 1 ++ sampleServed 1 "three" ⟨"a3", "r3"⟩ ++ sampleRepeated 1

def sampleTogether : List Event :=
  sampleExpired 0 ++ sampleExpired 1 ++ sampleServed 0 "two" ⟨"a2", "r2"⟩ ++ sampleRepeated 0 ++
    [.receive 1 none sampleCredential 3000, .serve 1 .lockSession, .serve 1 .detectReuse,
      .serve 1 (.visitRow "one"), .serve 1 (.visitRow "two"), .serve 1 .commit]

theorem never_reused_in_turn :
    ∃ final, run (step sampleHmac sampleHmac) sampleInTurn sampleWorld = some final ∧
      final.NeverReused ∧ final.stored = some "r3" := by
  have hguarded : Guarded (step sampleHmac sampleHmac) Guard sampleInTurn sampleWorld := by decide
  obtain ⟨final, hfinal, hstored⟩ : ∃ final,
      run (step sampleHmac sampleHmac) sampleInTurn sampleWorld = some final ∧
        final.stored = some "r3" := ⟨_, rfl, rfl⟩
  exact ⟨final, hfinal, never_reused sampleHmac sampleHmac _ _ _ _ _ _ _ _ _ hguarded hfinal,
    hstored⟩

/-- The second refresh presents the token that the first has rotated, and the family is revoked,
with the session whose token the client has just stored. -/
theorem parallel_refreshes_sign_out :
    ∃ final, run (step sampleHmac sampleHmac) sampleTogether sampleWorld = some final ∧
      ¬ final.NeverReused ∧ final.stored = some "r2" ∧
      final.server.sessions.map SessionRow.state = [.revoked, .revoked] ∧
      final.server.sessions.map SessionRow.revokeReason =
        [some "refresh-token-reuse", some "refresh-token-reuse"] := by
  obtain ⟨final, hfinal, hstored, hstates, hreasons⟩ : ∃ final,
      run (step sampleHmac sampleHmac) sampleTogether sampleWorld = some final ∧
        final.stored = some "r2" ∧
        final.server.sessions.map SessionRow.state = [.revoked, .revoked] ∧
        final.server.sessions.map SessionRow.revokeReason =
          [some "refresh-token-reuse", some "refresh-token-reuse"] := ⟨_, rfl, rfl, rfl, rfl⟩
  refine ⟨final, hfinal, fun h => ?_, hstored, hstates, hreasons⟩
  have hrevoked : SessionStore.SessionState.revoked ∈
      final.server.sessions.map SessionRow.state := hstates ▸ List.mem_cons_self
  obtain ⟨row, hrow, hstate⟩ := List.mem_map.mp hrevoked
  exact h.unrevoked row hrow hstate

end JbChat.Client.SessionRefresh
