/- source: src/production/storage/notificationChannelStore.ts,
     storage/migrations/0022_notification_channels.sql
   digest: Channels of an account that are verified by a secret, and when the right secret fails. -/

import JbChat.Domain.Fulfillment
import JbChat.Store.AppendEffects

/-!
Instants are milliseconds. A transaction holds the lock of the row that it reads, so the calls take
effect one after another.
-/

set_option autoImplicit false

namespace JbChat.Store.NotificationChannels

open Foundation.HashTrace Foundation.Transaction Foundation.Base64Url Delivery.ValueObjects
open Domain.Fulfillment Tables

inductive ChannelKind where
  | email
  | telegram
  | whatsapp
deriving DecidableEq

inductive ChannelState where
  | pending
  | active
  | disabled
deriving DecidableEq

/-- `notification_channels` -/
structure ChannelRow where
  channelId : String
  accountId : String
  kind : ChannelKind
  target : Option String
  display : String
  state : ChannelState
  verificationHash : Option Bytes
  verificationExpiresAt : Option Int
  verificationAttempts : Nat
  createdAt : Int
  verifiedAt : Option Int
deriving DecidableEq

structure ChannelDb where
  accounts : List String
  channels : List ChannelRow

/-- The key of `notification_channels_unique_active`, for the rows that it covers. -/
def ChannelRow.activeKey (row : ChannelRow) : Option (String × ChannelKind × String) :=
  if row.state = .active then row.target.map fun target => (row.accountId, row.kind, target)
  else none

/-- `/^[^@\s]+@[^@\s]+\.[^@\s]+$/` -/
def isEmail (text : String) : Bool :=
  match text.toList.splitOn '@' with
  | [mailbox, domain] =>
    decide (mailbox ≠ []) && (mailbox ++ domain).all (fun c => !isTrimmed c) &&
      decide ('.' ∈ (domain.drop 1).dropLast)
  | _ => false

/-- `/^\+[1-9]\d{6,14}$/` -/
def isE164 (text : String) : Bool :=
  match text.toList with
  | '+' :: first :: digits =>
    first.isDigit && decide (first ≠ '0' ∧ 6 ≤ digits.length ∧ digits.length ≤ 14) &&
      digits.all Char.isDigit
  | _ => false

/-- `replace(/[\s()-]/g, "")` -/
def withoutSeparators (text : String) : String :=
  String.ofList (text.toList.filter fun c => !isTrimmed c && decide (c ∉ ['(', ')', '-']))

/-- The target and its display, or the reason that it is refused for. The chat of a Telegram
channel is not known before it is redeemed. -/
def normalizeTarget (toLowerCase : String → String) (target : String) :
    ChannelKind → Except String (Option String × String)
  | .email =>
    let email := toLowerCase (trim target)
    if isEmail email then .ok (some email, email) else .error "invalid_email"
  | .whatsapp =>
    let phone := withoutSeparators (trim target)
    if isE164 phone then .ok (some phone, phone) else .error "invalid_phone"
  | .telegram => .ok (none, "Telegram")

section

/-- The random values of a creation. -/
structure ChannelEntropy where
  channelId : String
  code : Fin 1000000
  token : Vector UInt8 24

/-- `padStart(6, "0")` -/
def codeText (code : Nat) : String := String.ofList ((Nat.toDigits 10 code).leftpad 6 '0')

def ChannelEntropy.secret (entropy : ChannelEntropy) : ChannelKind → String
  | .email => codeText entropy.code
  | .telegram => encode entropy.token.toList
  | .whatsapp => ""

def codeTtlMilliseconds : Int := 900000

def tokenTtlMilliseconds : Int := 3600000

def maxVerifyAttempts : Nat := 5

inductive CreateChannelResult where
  | created (channelId secret : String) (kind : ChannelKind)
  | refused (reasonCode : String)
deriving DecidableEq

inductive VerifyResult where
  | active
  | invalid
  | expired
deriving DecidableEq

variable (hmacSecret : String → Bytes)

def pendingRow (now : Int) (entropy : ChannelEntropy) (accountId : String) (kind : ChannelKind)
    (target : Option String) (display : String) : ChannelRow where
  channelId := entropy.channelId
  accountId := accountId
  kind := kind
  target := target
  display := display
  state := .pending
  verificationHash :=
    if entropy.secret kind = "" then none else some (hmacSecret (entropy.secret kind))
  verificationExpiresAt :=
    if entropy.secret kind = "" then none
    else some (now + if kind = .telegram then tokenTtlMilliseconds else codeTtlMilliseconds)
  verificationAttempts := 0
  createdAt := now
  verifiedAt := none

def alreadyActive (accountId : String) (kind : ChannelKind) (target : Option String)
    (db : ChannelDb) : Bool :=
  target.isSome && db.channels.any fun row => decide (row.accountId = accountId ∧
    row.kind = kind ∧ row.target = target ∧ row.state = .active)

def createChannelTx (now : Int) (entropy : ChannelEntropy) (accountId : String)
    (kind : ChannelKind) (target : Option String) (display : String) :
    Tx ChannelDb Failure CreateChannelResult := fun db =>
  if alreadyActive accountId kind target db then .ok (.refused "already_active", db)
  else do
    let channels ← insertUnique "notification_channels_pkey" ChannelRow.channelId
      (pendingRow hmacSecret now entropy accountId kind target display) db.channels
    if accountId ∉ db.accounts then .error (.sql "notification_channels_account_id_fkey")
    else .ok (.created entropy.channelId (entropy.secret kind) kind, { db with channels := channels })

def createChannel (toLowerCase : String → String) (now : Int) (entropy : ChannelEntropy)
    (accountId : String) (kind : ChannelKind) (target : String) (db : ChannelDb) :
    Except Failure CreateChannelResult × ChannelDb :=
  match normalizeTarget toLowerCase target kind with
  | .error reasonCode => (.ok (.refused reasonCode), db)
  | .ok (target, display) =>
    sqlBegin (createChannelTx hmacSecret now entropy accountId kind target display) db

/-- Another row has the key in the unique index. -/
def hasTwin (row : ChannelRow) (db : ChannelDb) : Bool :=
  row.activeKey.isSome && db.channels.any fun other =>
    decide (other.channelId ≠ row.channelId ∧ other.activeKey = row.activeKey)

def activatedRow (now : Int) (target : Option String) (row : ChannelRow) : ChannelRow :=
  { row with
    state := .active
    target := target
    verifiedAt := some now
    verificationHash := none
    verificationExpiresAt := none }

/-- `UPDATE ... SET state = 'active' ... WHERE channel_id = ...` -/
def activateChannel (now : Int) (target : Option String) (row : ChannelRow) (db : ChannelDb) :
    Except Failure ChannelDb :=
  if hasTwin (activatedRow now target row) db then
    .error (.sql "notification_channels_unique_active")
  else .ok { db with
    channels := updateWhere (fun other => decide (other.channelId = row.channelId))
      (activatedRow now target) db.channels }

def missedRow (row : ChannelRow) : ChannelRow :=
  { row with verificationAttempts := row.verificationAttempts + 1 }

def missChannel (channelId : String) (db : ChannelDb) : ChannelDb :=
  { db with
    channels := updateWhere (fun row => decide (row.channelId = channelId)) missedRow db.channels }

def awaitsCode (accountId channelId : String) (row : ChannelRow) : Bool :=
  decide (row.channelId = channelId ∧ row.accountId = accountId ∧ row.kind = .email ∧
    row.state = .pending)

/-- A deadline that has passed; the empty date is the epoch. -/
def isExpired (now : Int) (row : ChannelRow) : Bool :=
  decide (row.verificationExpiresAt.getD 0 ≤ now)

def verifyEmailCodeTx (now : Int) (accountId channelId code : String) :
    Tx ChannelDb Failure VerifyResult := fun db =>
  match onlyRow (db.channels.filter (awaitsCode accountId channelId)) with
  | none => .ok (.invalid, db)
  | some row =>
    match row.verificationHash with
    | none => .ok (.invalid, db)
    | some expected =>
      if isExpired now row then .ok (.expired, db)
      else if maxVerifyAttempts ≤ row.verificationAttempts then .ok (.expired, db)
      else if expected ≠ hmacSecret (trim code) then .ok (.invalid, missChannel channelId db)
      else do
        let db ← activateChannel now row.target row db
        .ok (.active, db)

def awaitsToken (hash : Bytes) (row : ChannelRow) : Bool :=
  decide (row.kind = .telegram ∧ row.state = .pending ∧ row.verificationHash = some hash)

/-- The account of the channel that the token activates. -/
def redeemTelegramTokenTx (now : Int) (token chatId : String) :
    Tx ChannelDb Failure (Option String) := fun db =>
  match onlyRow (db.channels.filter (awaitsToken (hmacSecret (trim token)))) with
  | none => .ok (none, db)
  | some row =>
    if isExpired now row then .ok (none, db)
    else do
      let db ← activateChannel now (some chatId) row db
      .ok (some row.accountId, db)

def mayDisable (accountId channelId : String) (row : ChannelRow) : Bool :=
  decide (row.channelId = channelId ∧ row.accountId = accountId ∧ row.state ≠ .disabled)

def disabledRow (row : ChannelRow) : ChannelRow := { row with state := .disabled }

def disable (accountId channelId : String) (db : ChannelDb) : Bool × ChannelDb :=
  (decide ((db.channels.filter (mayDisable accountId channelId)).length = 1), { db with
    channels := updateWhere (mayDisable accountId channelId) disabledRow db.channels })

end

section

inductive ChannelCall where
  | createChannel (now : Int) (entropy : ChannelEntropy) (accountId : String) (kind : ChannelKind)
      (target : String)
  | verifyEmailCode (now : Int) (accountId channelId code : String)
  | redeemTelegramToken (now : Int) (token chatId : String)
  | disable (accountId channelId : String)

inductive Answer where
  | creation (result : CreateChannelResult)
  | verification (result : VerifyResult)
  | redemption (accountId : Option String)
  | disabled (found : Bool)
deriving DecidableEq

variable (hmacSecret : String → Bytes) (toLowerCase : String → String)

def ChannelCall.run (db : ChannelDb) : ChannelCall → Except Failure Answer × ChannelDb
  | .createChannel now entropy accountId kind target =>
    (NotificationChannels.createChannel hmacSecret toLowerCase now entropy accountId kind target
      db).map (Except.map .creation) id
  | .verifyEmailCode now accountId channelId code =>
    (sqlBegin (verifyEmailCodeTx hmacSecret now accountId channelId code) db).map
      (Except.map .verification) id
  | .redeemTelegramToken now token chatId =>
    (sqlBegin (redeemTelegramTokenTx hmacSecret now token chatId) db).map
      (Except.map .redemption) id
  | .disable accountId channelId =>
    (.ok (.disabled (NotificationChannels.disable accountId channelId db).1),
      (NotificationChannels.disable accountId channelId db).2)

structure Served where
  before : ChannelDb
  call : ChannelCall
  answer : Except Failure Answer
  after : ChannelDb

def serve : List ChannelCall → ChannelDb → List Served
  | [], _ => []
  | call :: calls, db =>
    let (answer, written) := call.run hmacSecret toLowerCase db
    ⟨db, call, answer, written⟩ :: serve calls written

def runCalls (calls : List ChannelCall) (db : ChannelDb) : ChannelDb :=
  calls.foldl (fun db call => (call.run hmacSecret toLowerCase db).2) db

def isActive (channelId : String) (db : ChannelDb) : Bool :=
  db.channels.any fun row => decide (row.channelId = channelId ∧ row.state = .active)

/-- The call makes the channel active. -/
def Served.activates (channelId : String) (served : Served) : Bool :=
  !isActive channelId served.before && isActive channelId served.after

def Served.redeems (token : String) (served : Served) : Bool :=
  match served.call, served.answer with
  | .redeemTelegramToken _ presented _, .ok (.redemption (some _)) => decide (trim presented = trim token)
  | _, _ => false

def ChannelCall.wrongFor (db : ChannelDb) : ChannelCall → Option String
  | .verifyEmailCode now accountId channelId code =>
    ((onlyRow (db.channels.filter (awaitsCode accountId channelId))).filter fun row =>
      !isExpired now row && decide (row.verificationAttempts < maxVerifyAttempts) &&
        row.verificationHash.any fun expected => decide (expected ≠ hmacSecret (trim code))).map
          fun _ => channelId
  | _ => none

def wrongCodes (channelId : String) (history : List Served) : Nat :=
  (history.filter fun served =>
    decide (served.call.wrongFor hmacSecret served.before = some channelId)).length

def tokenHashes (calls : List ChannelCall) : List Bytes :=
  calls.filterMap fun
    | .createChannel _ entropy _ .telegram _ => some (hmacSecret (entropy.secret .telegram))
    | _ => none

end

end JbChat.Store.NotificationChannels
