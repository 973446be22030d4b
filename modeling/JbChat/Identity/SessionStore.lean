/- source: src/production/identity/enrollmentStore.ts, src/production/http/messagingHttp.ts,
     storage/migrations/0001_spec_baseline.sql
   digest: Sessions that are issued, rotated and revoked by statements that interleave. -/

import JbChat.Foundation.HashTrace
import JbChat.Foundation.Transaction
import Mathlib.Logic.Function.Basic

/-!
Statements run at `READ COMMITTED`: each reads the rows committed before it started. A row that
a transaction wrote or selected `FOR UPDATE` is locked until its end, and a statement that waits
for a lock reads the row again. An `UPDATE` over many rows fixes the rows it will visit when it
starts. Instants are milliseconds. A request that is refused without writing takes no step.
-/

set_option autoImplicit false

namespace JbChat.Identity.SessionStore

open Foundation.HashTrace Foundation.Transaction

inductive SessionState where
  | active
  | rotated
  | revoked
  | expired
deriving DecidableEq

/-- `auth_sessions` -/
structure SessionRow where
  sessionId : String
  tokenFamilyId : String
  accountId : String
  installationId : String
  deviceCredentialId : String
  installationAuthJkt : Bytes
  deviceCredentialRevocationVersion : Nat
  audience : String
  clientId : String
  accessTokenHash : Bytes
  refreshTokenHash : Bytes
  refreshGeneration : Nat
  state : SessionState
  createdAt : Int
  accessExpiresAt : Int
  refreshExpiresAt : Int
  rotatedAt : Option Int
  revokedAt : Option Int
  revokeReason : Option String
deriving DecidableEq

/-- The row of `device_credentials` that a statement read. -/
structure CredentialReading where
  deviceCredentialId : String
  accountId : String
  installationId : String
  installationAuthJkt : Bytes
  revocationVersion : Nat
  active : Bool
  expiresAt : Int
deriving DecidableEq

structure SessionRequest where
  audience : String
  clientId : String

/-- The random values of a new session. -/
structure SessionValues where
  sessionId : String
  accessTokenHash : Bytes
  refreshTokenHash : Bytes

def accessTtlMilliseconds : Int := 900000

def refreshTtlMilliseconds : Int := 2592000000

/-- The first session of a new family. -/
def issuedSession (request : SessionRequest) (credential : CredentialReading)
    (tokenFamilyId : String) (values : SessionValues) (now : Int) : SessionRow where
  sessionId := values.sessionId
  tokenFamilyId := tokenFamilyId
  accountId := credential.accountId
  installationId := credential.installationId
  deviceCredentialId := credential.deviceCredentialId
  installationAuthJkt := credential.installationAuthJkt
  deviceCredentialRevocationVersion := credential.revocationVersion
  audience := request.audience
  clientId := request.clientId
  accessTokenHash := values.accessTokenHash
  refreshTokenHash := values.refreshTokenHash
  refreshGeneration := 0
  state := .active
  createdAt := now
  accessExpiresAt := min (now + accessTtlMilliseconds) credential.expiresAt
  refreshExpiresAt := min (now + refreshTtlMilliseconds) credential.expiresAt
  rotatedAt := none
  revokedAt := none
  revokeReason := none

/-- The session that a rotation puts in the place of another. -/
def successorSession (session : SessionRow) (credential : CredentialReading)
    (values : SessionValues) (now : Int) : SessionRow :=
  { session with
    sessionId := values.sessionId
    accessTokenHash := values.accessTokenHash
    refreshTokenHash := values.refreshTokenHash
    refreshGeneration := session.refreshGeneration + 1
    state := .active
    createdAt := now
    accessExpiresAt := min (now + accessTtlMilliseconds) credential.expiresAt
    refreshExpiresAt := min (now + refreshTtlMilliseconds) credential.expiresAt
    rotatedAt := none
    revokedAt := none
    revokeReason := none }

/-- `token_family_id = ... AND state IN ('active', 'rotated')` -/
def revocable (tokenFamilyId : String) (row : SessionRow) : Bool :=
  decide (row.tokenFamilyId = tokenFamilyId ∧ (row.state = .active ∨ row.state = .rotated))

def rotateSession (sessionId : String) (now : Int) (row : SessionRow) : SessionRow :=
  if row.sessionId = sessionId then { row with
    state := .rotated
    rotatedAt := some now }
  else row

def revokeSessions (sessionIds : List String) (reason : String) (now : Int) (row : SessionRow) :
    SessionRow :=
  if row.sessionId ∈ sessionIds then { row with
    state := .revoked
    revokedAt := some now
    revokeReason := some reason }
  else row

/-- An `UPDATE` that revokes a family: the rows it has yet to visit and those it has revoked. -/
structure FamilyUpdate where
  tokenFamilyId : String
  reason : String
  now : Int
  candidates : List String
  done : List String
deriving DecidableEq

/-- Where a request stands. Everything from `issuing` on is not committed yet. -/
inductive Process where
  | idle
  | waiting (sessionId : String) (credential : CredentialReading) (now : Int)
  | authenticated (tokenFamilyId : String)
  | issuing (row : SessionRow)
  | holding (row : SessionRow) (credential : CredentialReading) (now : Int)
  | rotating (row : SessionRow) (credential : CredentialReading) (now : Int)
  | rotated (row successor : SessionRow) (now : Int)
  | revoking (update : FamilyUpdate)
deriving DecidableEq

/-- The committed rows, the holder of each row lock, the requests, and the random values that
were drawn so far. -/
structure Sys where
  sessions : List SessionRow
  locks : String → Option Nat
  processes : Nat → Process
  drawn : List String

namespace Sys

def start : Sys := ⟨[], fun _ => none, fun _ => .idle, []⟩

/-- A statement that takes no lock. -/
def put (sys : Sys) (pid : Nat) (process : Process) : Sys :=
  { sys with processes := Function.update sys.processes pid process }

/-- A statement that locks a row. -/
def take (sys : Sys) (pid : Nat) (sessionId : String) (process : Process) : Sys :=
  { sys with
    locks := Function.update sys.locks sessionId (some pid)
    processes := Function.update sys.processes pid process }

/-- The end of a transaction, with what it makes visible. -/
def finish (sys : Sys) (pid : Nat) (change : List SessionRow → List SessionRow) : Sys :=
  { sys with
    sessions := change sys.sessions
    locks := fun sessionId => if sys.locks sessionId = some pid then none else sys.locks sessionId
    processes := Function.update sys.processes pid .idle }

def draw (sys : Sys) (values : List String) : Sys := { sys with drawn := values ++ sys.drawn }

/-- A row that no other transaction has locked. -/
def free (sys : Sys) (pid : Nat) (sessionId : String) : Bool :=
  decide (sys.locks sessionId = none ∨ sys.locks sessionId = some pid)

/-- The start of an `UPDATE` over a family. -/
def startUpdate (sys : Sys) (tokenFamilyId reason : String) (now : Int) : FamilyUpdate where
  tokenFamilyId := tokenFamilyId
  reason := reason
  now := now
  candidates := (sys.sessions.filter (revocable tokenFamilyId)).map SessionRow.sessionId
  done := []

end Sys

/-- One statement of one request, or the end of its transaction. -/
inductive Action where
  | issueSession (request : SessionRequest) (credential : CredentialReading)
      (tokenFamilyId : String) (values : SessionValues) (now : Int)
  | refreshSession (refreshTokenHash : Bytes) (credential : CredentialReading) (now : Int)
  | lockSession
  | detectReuse
  | rotate
  | insertSuccessor (values : SessionValues)
  | revokeSessionFamily (refreshTokenHash : Bytes) (now : Int)
  | authenticate (accessTokenHash : Bytes) (credential : CredentialReading) (now : Int)
  | deleteSession (now : Int)
  | visitRow (sessionId : String)
  | commit
  | abort

def CredentialReading.usable (credential : CredentialReading) (now : Int) : Bool :=
  decide (credential.active = true ∧ now < credential.expiresAt)

/-- A session that may be rotated. -/
def rotatable (row : SessionRow) (credential : CredentialReading) (now : Int) : Bool :=
  decide (row.state = .active ∧ now < row.refreshExpiresAt) && credential.usable now

/-- What a committed transaction makes visible. -/
def committedChange : Process → Option (List SessionRow → List SessionRow)
  | .issuing row => some fun rows => rows ++ [row]
  | .holding row credential now =>
    if row.state = .rotated ∨ row.state = .revoked ∨ rotatable row credential now then none
    else some id
  | .rotated row successor now =>
    some fun rows => rows.map (rotateSession row.sessionId now) ++ [successor]
  | .revoking update =>
    if update.candidates = [] then
      some fun rows => rows.map (revokeSessions update.done update.reason update.now)
    else none
  | _ => none

def step (sys : Sys) (pid : Nat) (action : Action) : Option Sys :=
  match action, sys.processes pid with
  | .issueSession request credential tokenFamilyId values now, .idle =>
    if credential.usable now ∧ tokenFamilyId ∉ sys.drawn ∧ values.sessionId ∉ sys.drawn ∧
        values.sessionId ≠ tokenFamilyId then
      some ((sys.put pid (.issuing (issuedSession request credential tokenFamilyId values
        now))).draw [tokenFamilyId, values.sessionId])
    else none
  | .refreshSession refreshTokenHash credential now, .idle =>
    (onlyRow (sys.sessions.filter fun row =>
        decide (row.refreshTokenHash = refreshTokenHash))).map fun row =>
      sys.put pid (.waiting row.sessionId credential now)
  | .lockSession, .waiting sessionId credential now =>
    if sys.free pid sessionId then
      (sys.sessions.find? fun row => decide (row.sessionId = sessionId)).map fun row =>
        sys.take pid sessionId (.holding row credential now)
    else none
  | .detectReuse, .holding row _ now =>
    if row.state = .rotated ∨ row.state = .revoked then
      some (sys.put pid (.revoking (sys.startUpdate row.tokenFamilyId "refresh-token-reuse" now)))
    else none
  | .rotate, .holding row credential now =>
    if rotatable row credential now then some (sys.put pid (.rotating row credential now))
    else none
  | .insertSuccessor values, .rotating row credential now =>
    if values.sessionId ∉ sys.drawn then
      some ((sys.put pid (.rotated row (successorSession row credential values now) now)).draw
        [values.sessionId])
    else none
  | .revokeSessionFamily refreshTokenHash now, .idle =>
    (onlyRow (sys.sessions.filter fun row =>
        decide (row.refreshTokenHash = refreshTokenHash))).map fun row =>
      sys.put pid (.revoking (sys.startUpdate row.tokenFamilyId "explicit-logout" now))
  | .authenticate accessTokenHash credential now, .idle =>
    if credential.usable now then
      (onlyRow (sys.sessions.filter fun row => decide (row.accessTokenHash = accessTokenHash ∧
          row.state = .active ∧ now < row.accessExpiresAt ∧
          credential.revocationVersion = row.deviceCredentialRevocationVersion))).map fun row =>
        sys.put pid (.authenticated row.tokenFamilyId)
    else none
  | .deleteSession now, .authenticated tokenFamilyId =>
    some (sys.put pid (.revoking (sys.startUpdate tokenFamilyId "session_delete" now)))
  | .visitRow sessionId, .revoking update =>
    if sessionId ∈ update.candidates ∧ sys.free pid sessionId then
      let left := update.candidates.erase sessionId
      if sys.sessions.any fun row => decide (row.sessionId = sessionId) &&
          revocable update.tokenFamilyId row then
        some (sys.take pid sessionId (.revoking { update with
          candidates := left
          done := sessionId :: update.done }))
      else some (sys.put pid (.revoking { update with candidates := left }))
    else none
  | .commit, process => (committedChange process).map (sys.finish pid)
  | .abort, _ => some (sys.finish pid id)
  | _, _ => none

/-- The state after the statements, when each of them can run where it stands. -/
def run (sys : Sys) : List (Nat × Action) → Option Sys
  | [] => some sys
  | (pid, action) :: rest => (step sys pid action).bind fun written => run written rest

/-- The families whose revocation is committed in the run. -/
def revokedBy (sys : Sys) : List (Nat × Action) → List String
  | [] => []
  | (pid, action) :: rest =>
    match step sys pid action with
    | none => []
    | some written =>
      match action, sys.processes pid with
      | .commit, .revoking update => update.tokenFamilyId :: revokedBy written rest
      | _, _ => revokedBy written rest

/-- A rotation commits while an `UPDATE` that revokes its family is under way. -/
def Overtakes (sys : Sys) (pid : Nat) (action : Action) : Prop :=
  action = .commit ∧ ∃ row successor now, sys.processes pid = .rotated row successor now ∧
    ∃ other update, sys.processes other = .revoking update ∧
      update.tokenFamilyId = row.tokenFamilyId

/-- No rotation of the run overtakes a revocation of its family. -/
def Undisturbed (sys : Sys) : List (Nat × Action) → Prop
  | [] => True
  | (pid, action) :: rest => ¬ Overtakes sys pid action ∧
      ∀ written, step sys pid action = some written → Undisturbed written rest

/-- The sessions of a family, in the order they were committed. -/
def family (tokenFamilyId : String) (rows : List SessionRow) : List SessionRow :=
  rows.filter fun row => decide (row.tokenFamilyId = tokenFamilyId)

end JbChat.Identity.SessionStore
