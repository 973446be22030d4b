/- source: src/production/storage/notificationChannelStore.ts,
     storage/migrations/0022_notification_channels.sql
   digest: The right secret activates its channel once, unless the account has its twin already. -/

import JbChat.Store.NotificationChannels

set_option autoImplicit false

namespace JbChat.Store.ChannelVerification

open Foundation.HashTrace Foundation.Transaction Foundation.Base64Url Delivery.ValueObjects
open Domain.Fulfillment Tables AppendEffects MembershipModel NotificationChannels

section

variable (hmacSecret : String → Bytes) (toLowerCase : String → String)

def Issued (history : List Served) (channelId secret : String) : Prop :=
  ∃ served ∈ history, ∃ kind, served.answer = .ok (.creation (.created channelId secret kind))

/-- The call presents the secret of a pending channel in time, before five wrong codes; the target
that the channel is to have and the answer that the caller is to have. -/
inductive Presents (history : List Served) (db : ChannelDb) :
    ChannelCall → ChannelRow → Option String → Answer → Prop where
  | code {row : ChannelRow} {now expiresAt : Int} {code : String} (stored : row ∈ db.channels)
      (pending : row.state = .pending) (kind : row.kind = .email)
      (issued : Issued history row.channelId code)
      (deadline : row.verificationExpiresAt = some expiresAt) (early : now < expiresAt)
      (few : wrongCodes hmacSecret row.channelId history < maxVerifyAttempts) :
      Presents history db (.verifyEmailCode now row.accountId row.channelId code) row row.target
        (.verification .active)
  | token {row : ChannelRow} {now expiresAt : Int} {token chatId : String}
      (stored : row ∈ db.channels) (pending : row.state = .pending) (kind : row.kind = .telegram)
      (issued : Issued history row.channelId token)
      (deadline : row.verificationExpiresAt = some expiresAt) (early : now < expiresAt) :
      Presents history db (.redeemTelegramToken now token chatId) row (some chatId)
        (.redemption (some row.accountId))

def Twin (db : ChannelDb) (row : ChannelRow) (target : Option String) : Prop :=
  ∃ other ∈ db.channels, other.channelId ≠ row.channelId ∧ other.state = .active ∧
    other.accountId = row.accountId ∧ other.kind = row.kind ∧ other.target = target

/-- No account has two active channels of one kind with one target. -/
def NoTwins (db : ChannelDb) : Prop :=
  ∀ row ∈ db.channels, row.state = .active → ¬ Twin db row row.target

def presented : ChannelCall → Option String
  | .verifyEmailCode _ _ _ code => some code
  | .redeemTelegramToken _ token _ => some token
  | _ => none

/-- What the channels of a history are to have, once they have come to the given tables. -/
structure VerifiesOnce (history : List Served) (db : ChannelDb) : Prop where
  answered : ∀ call row target success,
    Presents hmacSecret history db call row target success →
      ((call.run hmacSecret toLowerCase db).1 = .ok success ↔ ¬ Twin db row target)
  secret : ∀ served ∈ history, ∀ channelId, served.activates channelId = true →
    ∃ row ∈ served.before.channels, ∃ text, row.channelId = channelId ∧
      presented served.call = some text ∧ row.verificationHash = some (hmacSecret (trim text))
  single : ∀ served ∈ history, ∀ channelId other, served.activates channelId = true →
    served.activates other = true → channelId = other
  once : ∀ channelId, (history.filter (Served.activates channelId)).length ≤ 1
  tokenOnce : ∀ token, (history.filter (Served.redeems token)).length ≤ 1
  wrong : ∀ channelId, wrongCodes hmacSecret channelId history ≤ maxVerifyAttempts
  distinct : NoTwins db

end

theorem trim_eq_self {text : String} (h : ∀ c ∈ text.toList, isTrimmed c = false) :
    trim text = text := by
  have keeps : ∀ chars : List Char, (∀ c ∈ chars, isTrimmed c = false) →
      chars.dropWhile isTrimmed = chars := by
    intro chars hchars
    cases chars with
    | nil => rfl
    | cons c rest =>
      exact List.dropWhile_cons_of_neg (by simp [hchars c List.mem_cons_self])
  unfold trim
  rw [keeps _ h, keeps _ fun c hc => h c (List.mem_reverse.mp hc), List.reverse_reverse,
    String.ofList_toList]

theorem isTrimmed_of_isDigit {c : Char} (h : c.isDigit = true) : isTrimmed c = false := by
  unfold Char.isDigit at h
  unfold isTrimmed
  simp only [Bool.and_eq_true, decide_eq_true_eq, UInt32.le_iff_toNat_le] at h
  have hlow : 48 ≤ c.toNat := h.1
  have hhigh : c.toNat ≤ 57 := h.2
  simp only [Bool.or_eq_false_iff, Bool.and_eq_false_iff, decide_eq_false_iff_not]
  omega

theorem isTrimmed_of_mem_alphabet {c : Char} (h : c ∈ alphabet) : isTrimmed c = false := by
  have hall : (alphabet.all fun d => !isTrimmed d) = true := by rfl
  have hc := List.all_eq_true.mp hall c h
  simpa using hc

theorem trim_secret (entropy : ChannelEntropy) (kind : ChannelKind) :
    trim (entropy.secret kind) = entropy.secret kind := by
  apply trim_eq_self
  intro c hc
  cases kind with
  | email =>
    unfold ChannelEntropy.secret codeText at hc
    rw [String.toList_ofList, List.leftpad, List.mem_append] at hc
    rcases hc with hpad | hdigit
    · obtain rfl := (List.mem_replicate.mp hpad).2
      decide
    · exact isTrimmed_of_isDigit (Nat.isDigit_of_mem_toDigits (by decide) (by decide) hdigit)
  | telegram =>
    unfold ChannelEntropy.secret encode at hc
    rw [String.toList_ofList] at hc
    exact isTrimmed_of_mem_alphabet (encodeChars_mem hc)
  | whatsapp => cases hc

theorem secret_ne_empty (entropy : ChannelEntropy) {kind : ChannelKind} (h : kind ≠ .whatsapp) :
    entropy.secret kind ≠ "" := by
  cases kind with
  | email =>
    intro hempty
    have hlength := congrArg (fun text => text.toList.length) hempty
    unfold ChannelEntropy.secret codeText at hlength
    simp only [String.toList_ofList, List.leftpad, List.length_append,
      List.length_replicate] at hlength
    have hzero : (String.toList "").length = 0 := rfl
    omega
  | telegram =>
    intro hempty
    have hlength := congrArg (fun text => text.toList.length) hempty
    unfold ChannelEntropy.secret encode at hlength
    simp only [String.toList_ofList, JbChat.Foundation.Base64Url.encodeChars_length] at hlength
    have hbytes : entropy.token.toList.length = 24 := by simp
    rw [hbytes] at hlength
    cases hlength
  | whatsapp => exact absurd rfl h

section

variable {hmacSecret : String → Bytes} {toLowerCase : String → String} {db : ChannelDb}

/-- The answer activates no channel and creates none. -/
def Idle : Except Failure Answer → Prop
  | .ok (.creation (.created _ _ _)) => False
  | .ok (.verification .active) => False
  | .ok (.redemption (some _)) => False
  | _ => True

/-- What a call does, in six cases. -/
inductive Effect (hmacSecret : String → Bytes) (db : ChannelDb) :
    ChannelCall → Except Failure Answer → ChannelDb → Prop where
  | quiet {call : ChannelCall} {answer : Except Failure Answer} (idle : Idle answer)
      (right : call.wrongFor hmacSecret db = none) : Effect hmacSecret db call answer db
  | created {now : Int} {entropy : ChannelEntropy} {accountId given display : String}
      {kind : ChannelKind} {target : Option String}
      (fresh : ∀ row ∈ db.channels, row.channelId ≠ entropy.channelId)
      (targeted : kind = .email → target ≠ none) :
      Effect hmacSecret db (.createChannel now entropy accountId kind given)
        (.ok (.creation (.created entropy.channelId (entropy.secret kind) kind)))
        { db with
          channels := db.channels ++
            [pendingRow hmacSecret now entropy accountId kind target display] }
  | missed {now : Int} {accountId channelId code : String} {row : ChannelRow}
      (found : db.channels.filter (awaitsCode accountId channelId) = [row])
      (few : row.verificationAttempts < maxVerifyAttempts)
      (wrong : (ChannelCall.verifyEmailCode now accountId channelId code).wrongFor hmacSecret db =
        some channelId) :
      Effect hmacSecret db (.verifyEmailCode now accountId channelId code)
        (.ok (.verification .invalid)) (missChannel channelId db)
  | verified {now : Int} {accountId channelId code : String} {row : ChannelRow}
      (found : db.channels.filter (awaitsCode accountId channelId) = [row])
      (secret : row.verificationHash = some (hmacSecret (trim code)))
      (alone : hasTwin (activatedRow now row.target row) db = false) :
      Effect hmacSecret db (.verifyEmailCode now accountId channelId code)
        (.ok (.verification .active)) { db with
          channels := updateWhere (fun other => decide (other.channelId = row.channelId))
            (activatedRow now row.target) db.channels }
  | redeemed {now : Int} {token chatId : String} {row : ChannelRow}
      (found : db.channels.filter (awaitsToken (hmacSecret (trim token))) = [row])
      (alone : hasTwin (activatedRow now (some chatId) row) db = false) :
      Effect hmacSecret db (.redeemTelegramToken now token chatId)
        (.ok (.redemption (some row.accountId))) { db with
          channels := updateWhere (fun other => decide (other.channelId = row.channelId))
            (activatedRow now (some chatId)) db.channels }
  | disabled {accountId channelId : String} {answer : Bool} :
      Effect hmacSecret db (.disable accountId channelId) (.ok (.disabled answer)) { db with
        channels := updateWhere (mayDisable accountId channelId) disabledRow db.channels }

theorem createChannelTx_eq_ok {now : Int} {entropy : ChannelEntropy} {accountId display : String}
    {kind : ChannelKind} {target : Option String} {result : CreateChannelResult}
    {written : ChannelDb}
    (h : createChannelTx hmacSecret now entropy accountId kind target display db =
      .ok (result, written)) :
    (result = .refused "already_active" ∧ written = db) ∨
      (result = .created entropy.channelId (entropy.secret kind) kind ∧
        (∀ row ∈ db.channels, row.channelId ≠ entropy.channelId) ∧ written = { db with
          channels := db.channels ++
            [pendingRow hmacSecret now entropy accountId kind target display] }) := by
  unfold createChannelTx at h
  split at h
  · cases h
    exact Or.inl ⟨rfl, rfl⟩
  · obtain ⟨channels, hinsert, h⟩ := bind_ok.mp h
    obtain ⟨fresh, rfl⟩ := insertUnique_eq_ok hinsert
    obtain ⟨-, h⟩ := guard_ok.mp h
    cases h
    exact Or.inr ⟨rfl, fresh, rfl⟩

theorem normalizeTarget_email {target display : String} {normalized : Option String}
    (h : normalizeTarget toLowerCase target .email = .ok (normalized, display)) :
    normalized ≠ none := by
  unfold normalizeTarget at h
  dsimp only at h
  split at h
  · cases h
    exact Option.some_ne_none _
  · cases h

theorem wrongFor_verify (hmacSecret : String → Bytes) (now : Int) {accountId channelId : String}
    (code : String) {row : ChannelRow}
    (found : db.channels.filter (awaitsCode accountId channelId) = [row]) :
    (ChannelCall.verifyEmailCode now accountId channelId code).wrongFor hmacSecret db =
      if !isExpired now row && decide (row.verificationAttempts < maxVerifyAttempts) &&
          row.verificationHash.any fun expected => decide (expected ≠ hmacSecret (trim code)) then
        some channelId
      else none := by
  unfold ChannelCall.wrongFor
  dsimp only
  rw [found]
  unfold onlyRow
  dsimp only
  rw [Option.filter_some]
  split <;> rfl

/-- The effect of a transaction, when it ends in the outcome. -/
def Leads {α : Type} (hmacSecret : String → Bytes) (db : ChannelDb) (call : ChannelCall)
    (wrap : α → Answer) : Except Failure (α × ChannelDb) → Prop
  | .ok (result, written) => Effect hmacSecret db call (.ok (wrap result)) written
  | .error failure => Effect hmacSecret db call (.error failure) db

theorem Leads.effect {α : Type} {call : ChannelCall} {wrap : α → Answer}
    {tx : Tx ChannelDb Failure α} (leads : Leads hmacSecret db call wrap (tx db)) :
    Effect hmacSecret db call ((sqlBegin tx db).map (Except.map wrap) id).1
      ((sqlBegin tx db).map (Except.map wrap) id).2 := by
  rcases sqlBegin_cases tx db with ⟨result, written, htx, hrun⟩ | ⟨failure, htx, hrun⟩
  · rw [htx] at leads
    rw [hrun]
    exact leads
  · rw [htx] at leads
    rw [hrun]
    exact leads

theorem verifyEmailCodeTx_leads (now : Int) (accountId channelId code : String) :
    Leads hmacSecret db (.verifyEmailCode now accountId channelId code) .verification
      (verifyEmailCodeTx hmacSecret now accountId channelId code db) := by
  unfold verifyEmailCodeTx
  cases hfound : onlyRow (db.channels.filter (awaitsCode accountId channelId)) with
  | none =>
    refine .quiet trivial ?_
    unfold ChannelCall.wrongFor
    dsimp only
    rw [hfound]
    rfl
  | some row =>
    have found := onlyRow_eq_some.mp hfound
    have hwrong := wrongFor_verify hmacSecret now code found
    dsimp only
    cases hhash : row.verificationHash with
    | none =>
      refine .quiet trivial ?_
      rw [hwrong, hhash]
      simp
    | some expected =>
      dsimp only
      rw [hhash] at hwrong
      by_cases hexpired : isExpired now row = true
      · rw [if_pos hexpired]
        refine .quiet trivial ?_
        rw [hwrong]
        simp [hexpired]
      · rw [if_neg hexpired]
        by_cases hmany : maxVerifyAttempts ≤ row.verificationAttempts
        · rw [if_pos hmany]
          refine .quiet trivial ?_
          rw [hwrong]
          simp [hmany]
        · rw [if_neg hmany]
          by_cases hother : expected ≠ hmacSecret (trim code)
          · rw [if_pos hother]
            refine .missed found (Nat.lt_of_not_ge hmany) ?_
            rw [hwrong]
            simp [hexpired, hother, Nat.lt_of_not_ge hmany]
          · rw [if_neg hother]
            have hsecret : expected = hmacSecret (trim code) := not_not.mp hother
            unfold activateChannel
            by_cases htwin : hasTwin (activatedRow now row.target row) db = true
            · rw [if_pos htwin]
              refine .quiet trivial ?_
              rw [hwrong]
              simp [hsecret]
            · rw [if_neg htwin]
              exact .verified found (hhash.trans (congrArg some hsecret))
                (Bool.eq_false_iff.mpr htwin)

theorem redeemTelegramTokenTx_leads (now : Int) (token chatId : String) :
    Leads hmacSecret db (.redeemTelegramToken now token chatId) .redemption
      (redeemTelegramTokenTx hmacSecret now token chatId db) := by
  unfold redeemTelegramTokenTx
  cases hfound : onlyRow (db.channels.filter (awaitsToken (hmacSecret (trim token)))) with
  | none => exact .quiet trivial rfl
  | some row =>
    dsimp only
    by_cases hexpired : isExpired now row = true
    · rw [if_pos hexpired]
      exact .quiet trivial rfl
    · rw [if_neg hexpired]
      unfold activateChannel
      by_cases htwin : hasTwin (activatedRow now (some chatId) row) db = true
      · rw [if_pos htwin]
        exact .quiet trivial rfl
      · rw [if_neg htwin]
        exact .redeemed (onlyRow_eq_some.mp hfound) (Bool.eq_false_iff.mpr htwin)

theorem createChannel_effect (now : Int) (entropy : ChannelEntropy) (accountId : String)
    (kind : ChannelKind) (target : String) :
    Effect hmacSecret db (.createChannel now entropy accountId kind target)
      ((ChannelCall.createChannel now entropy accountId kind target).run hmacSecret toLowerCase
        db).1
      ((ChannelCall.createChannel now entropy accountId kind target).run hmacSecret toLowerCase
        db).2 := by
  unfold ChannelCall.run createChannel
  dsimp only
  cases hnormal : normalizeTarget toLowerCase target kind with
  | error reasonCode => exact .quiet trivial rfl
  | ok pair =>
    obtain ⟨normalized, display⟩ := pair
    dsimp only
    rcases sqlBegin_cases (createChannelTx hmacSecret now entropy accountId kind normalized
      display) db with ⟨result, written, htx, hrun⟩ | ⟨failure, -, hrun⟩
    · rw [hrun]
      rcases createChannelTx_eq_ok htx with ⟨rfl, rfl⟩ | ⟨rfl, fresh, rfl⟩
      · exact .quiet trivial rfl
      · refine .created fresh fun hemail => ?_
        subst hemail
        exact normalizeTarget_email hnormal
    · rw [hrun]
      exact .quiet trivial rfl

theorem run_effect (call : ChannelCall) :
    Effect hmacSecret db call (call.run hmacSecret toLowerCase db).1
      (call.run hmacSecret toLowerCase db).2 := by
  cases call with
  | createChannel now entropy accountId kind target =>
    exact createChannel_effect now entropy accountId kind target
  | verifyEmailCode now accountId channelId code =>
    exact (verifyEmailCodeTx_leads now accountId channelId code).effect
  | redeemTelegramToken now token chatId =>
    exact (redeemTelegramTokenTx_leads now token chatId).effect
  | disable accountId channelId => exact .disabled

end

section

variable {hmacSecret : String → Bytes} {db after : ChannelDb} {call : ChannelCall}
  {answer : Except Failure Answer} {row : ChannelRow}

/-- What a call does to a row. -/
inductive RowStep (row : ChannelRow) : ChannelRow → Prop where
  | same : RowStep row row
  | missed (pending : row.state = .pending)
      (few : row.verificationAttempts < maxVerifyAttempts) : RowStep row (missedRow row)
  | activated {now : Int} {target : Option String} (pending : row.state = .pending)
      (targeted : target ≠ none) : RowStep row (activatedRow now target row)
  | disabled : RowStep row (disabledRow row)

/-- What the calls preserve. -/
structure Sound (db : ChannelDb) : Prop where
  unique : (db.channels.map ChannelRow.channelId).Nodup
  few : ∀ row ∈ db.channels, row.verificationAttempts ≤ maxVerifyAttempts
  addressed : ∀ row ∈ db.channels, row.kind = .email → row.target ≠ none
  targeted : ∀ row ∈ db.channels, row.state = .active → row.target ≠ none
  distinct : ∀ row ∈ db.channels, ∀ other ∈ db.channels, row.activeKey ≠ none →
    other.activeKey = row.activeKey → other.channelId = row.channelId

theorem RowStep.channelId {next : ChannelRow} (step : RowStep row next) :
    next.channelId = row.channelId := by
  cases step <;> rfl

theorem RowStep.kind {next : ChannelRow} (step : RowStep row next) : next.kind = row.kind := by
  cases step <;> rfl

theorem RowStep.pending {next : ChannelRow} (step : RowStep row next) (h : next.state = .pending) :
    row.state = .pending ∧ next.verificationHash = row.verificationHash := by
  cases step with
  | same => exact ⟨h, rfl⟩
  | missed pending => exact ⟨pending, rfl⟩
  | activated => cases h
  | disabled => cases h

theorem Sound.eq_of_id (sound : Sound db) {other : ChannelRow} (hrow : row ∈ db.channels)
    (hother : other ∈ db.channels) (h : other.channelId = row.channelId) : other = row :=
  List.inj_on_of_nodup_map sound.unique hother hrow h

theorem awaitsCode_iff {accountId channelId : String} :
    awaitsCode accountId channelId row = true ↔ row.channelId = channelId ∧
      row.accountId = accountId ∧ row.kind = .email ∧ row.state = .pending := decide_eq_true_iff

theorem awaitsToken_iff {hash : Bytes} :
    awaitsToken hash row = true ↔ row.kind = .telegram ∧ row.state = .pending ∧
      row.verificationHash = some hash := decide_eq_true_iff

theorem of_found {selected : ChannelRow → Bool}
    (found : db.channels.filter selected = [row]) : row ∈ db.channels ∧ selected row = true :=
  List.mem_filter.mp (found ▸ List.mem_singleton.mpr rfl)

theorem Effect.evolves (effect : Effect hmacSecret db call answer after) (sound : Sound db) :
    ∃ (next : ChannelRow → ChannelRow) (new : List ChannelRow),
      after.channels = db.channels.map next ++ new ∧
      (∀ row ∈ db.channels, RowStep row (next row)) ∧
      ∀ row ∈ new, new = [row] ∧ row.state = .pending ∧ row.verificationAttempts = 0 ∧
        (row.kind = .email → row.target ≠ none) ∧
        ∀ other ∈ db.channels, other.channelId ≠ row.channelId := by
  -- an update of the row with the id of a found one
  have updates : ∀ (row : ChannelRow) (change : ChannelRow → ChannelRow), row ∈ db.channels →
      RowStep row (change row) → ∀ other ∈ db.channels, RowStep other
        (if decide (other.channelId = row.channelId) = true then change other else other) := by
    intro row change hrow step other hother
    by_cases hid : other.channelId = row.channelId
    · obtain rfl := sound.eq_of_id hrow hother hid
      rwa [if_pos (decide_eq_true rfl)]
    · rw [if_neg (by simpa using hid)]
      exact .same
  cases effect with
  | quiet => exact ⟨id, [], by simp, fun _ _ => .same, by simp⟩
  | created fresh targeted =>
    refine ⟨id, _, by rw [List.map_id], fun _ _ => .same, ?_⟩
    intro row hrow
    obtain rfl := List.mem_singleton.mp hrow
    exact ⟨rfl, rfl, rfl, targeted, fresh⟩
  | missed found few =>
    obtain ⟨hrow, hselected⟩ := of_found found
    obtain ⟨rfl, -, -, hpending⟩ := awaitsCode_iff.mp hselected
    exact ⟨_, [], (List.append_nil _).symm, updates _ _ hrow (.missed hpending few), by simp⟩
  | verified found secret alone =>
    obtain ⟨hrow, hselected⟩ := of_found found
    obtain ⟨-, -, hkind, hpending⟩ := awaitsCode_iff.mp hselected
    exact ⟨_, [], (List.append_nil _).symm,
      updates _ _ hrow (.activated hpending (sound.addressed _ hrow hkind)), by simp⟩
  | redeemed found alone =>
    obtain ⟨hrow, hselected⟩ := of_found found
    obtain ⟨-, hpending, -⟩ := awaitsToken_iff.mp hselected
    exact ⟨_, [], (List.append_nil _).symm,
      updates _ _ hrow (.activated hpending (Option.some_ne_none _)), by simp⟩
  | disabled =>
    refine ⟨_, [], (List.append_nil _).symm, fun row _ => ?_, by simp⟩
    split
    · exact .disabled
    · exact .same

theorem RowStep.targeted {next : ChannelRow} (step : RowStep row next)
    (h : row.state = .active → row.target ≠ none) (active : next.state = .active) :
    next.target ≠ none := by
  cases step with
  | same => exact h active
  | missed pending => exact absurd (active.symm.trans pending) (by decide)
  | activated pending targeted => exact targeted
  | disabled => cases active

theorem RowStep.addressed {next : ChannelRow} (step : RowStep row next)
    (h : row.target ≠ none) : next.target ≠ none := by
  cases step with
  | same => exact h
  | missed => exact h
  | activated pending targeted => exact targeted
  | disabled => exact h

theorem RowStep.activeKey {next : ChannelRow} (step : RowStep row next)
    (h : next.activeKey ≠ none) :
    next = row ∨ ∃ now target, next = activatedRow now target row := by
  cases step with
  | same => exact Or.inl rfl
  | missed pending =>
    refine absurd ?_ h
    unfold ChannelRow.activeKey missedRow
    dsimp only
    rw [if_neg (by rw [pending]; decide)]
  | activated => exact Or.inr ⟨_, _, rfl⟩
  | disabled => exact absurd rfl h

theorem activeKey_pendingRow (now : Int) (entropy : ChannelEntropy) (accountId : String)
    (kind : ChannelKind) (target : Option String) (display : String) :
    (pendingRow hmacSecret now entropy accountId kind target display).activeKey = none := rfl

theorem Sound.distinct_activate (sound : Sound db) {now : Int} {target : Option String}
    (hrow : row ∈ db.channels) (alone : hasTwin (activatedRow now target row) db = false) :
    ∀ a ∈ updateWhere (fun other => decide (other.channelId = row.channelId))
        (activatedRow now target) db.channels,
      ∀ b ∈ updateWhere (fun other => decide (other.channelId = row.channelId))
        (activatedRow now target) db.channels,
        a.activeKey ≠ none → b.activeKey = a.activeKey → b.channelId = a.channelId := by
  -- no row of another id has the key of the activated one
  have apart : ∀ other ∈ db.channels, other.channelId ≠ row.channelId →
      (activatedRow now target row).activeKey ≠ none →
        other.activeKey ≠ (activatedRow now target row).activeKey := by
    intro other hother hid hkey hsame
    unfold hasTwin at alone
    rw [Bool.and_eq_false_iff] at alone
    rcases alone with hnone | hnone
    · exact hkey (Option.not_isSome_iff_eq_none.mp (by rw [hnone]; decide))
    · exact absurd (List.any_eq_true.mpr ⟨other, hother, decide_eq_true ⟨hid, hsame⟩⟩)
        (Bool.eq_false_iff.mp hnone)
  intro a ha b hb hkey hsame
  rcases mem_updateWhere.mp ha with ⟨olda, holda, hida, rfl⟩ | ⟨holda, hida⟩ <;>
    rcases mem_updateWhere.mp hb with ⟨oldb, holdb, hidb, rfl⟩ | ⟨holdb, hidb⟩
  · exact (of_decide_eq_true hidb).trans (of_decide_eq_true hida).symm
  · obtain rfl := sound.eq_of_id hrow holda (of_decide_eq_true hida)
    exact absurd hsame (apart b holdb (of_decide_eq_false hidb) hkey)
  · obtain rfl := sound.eq_of_id hrow holdb (of_decide_eq_true hidb)
    exact absurd hsame.symm (apart a holda (of_decide_eq_false hida) (hsame ▸ hkey))
  · exact sound.distinct a holda b holdb hkey hsame

theorem Effect.distinct (effect : Effect hmacSecret db call answer after) (sound : Sound db) :
    ∀ row ∈ after.channels, ∀ other ∈ after.channels, row.activeKey ≠ none →
      other.activeKey = row.activeKey → other.channelId = row.channelId := by
  -- no row becomes active
  have inactive : (∀ row ∈ after.channels, row.activeKey ≠ none → row ∈ db.channels) →
      ∀ row ∈ after.channels, ∀ other ∈ after.channels, row.activeKey ≠ none →
        other.activeKey = row.activeKey → other.channelId = row.channelId :=
    fun kept row hrow other hother hkey hsame => sound.distinct row (kept row hrow hkey) other
      (kept other hother (hsame ▸ hkey)) hkey hsame
  cases effect with
  | quiet => exact sound.distinct
  | created fresh targeted =>
    refine inactive fun row hrow hkey => ?_
    rcases List.mem_append.mp hrow with hold | hnew
    · exact hold
    · obtain rfl := List.mem_singleton.mp hnew
      exact absurd (activeKey_pendingRow _ _ _ _ _ _) hkey
  | missed found few =>
    obtain ⟨hfound, hselected⟩ := of_found found
    obtain ⟨rfl, -, -, hpending⟩ := awaitsCode_iff.mp hselected
    refine inactive fun row hrow hkey => ?_
    rcases mem_updateWhere.mp hrow with ⟨old, hold, hid, rfl⟩ | ⟨hold, -⟩
    · obtain rfl := sound.eq_of_id hfound hold (of_decide_eq_true hid)
      rcases RowStep.activeKey (.missed hpending few) hkey with h | ⟨now, target, h⟩
      · rwa [h]
      · have hstate : old.state = .active := congrArg ChannelRow.state h
        exact absurd (hpending.symm.trans hstate) (by decide)
    · exact hold
  | verified found secret alone => exact sound.distinct_activate (of_found found).1 alone
  | redeemed found alone => exact sound.distinct_activate (of_found found).1 alone
  | disabled =>
    refine inactive fun row hrow hkey => ?_
    rcases mem_updateWhere.mp hrow with ⟨old, -, -, rfl⟩ | ⟨hold, -⟩
    · exact absurd rfl hkey
    · exact hold

theorem Effect.sound (effect : Effect hmacSecret db call answer after) (sound : Sound db) :
    Sound after := by
  obtain ⟨next, new, hafter, steps, newborn⟩ := effect.evolves sound
  have each : ∀ row ∈ after.channels, (∃ old ∈ db.channels, RowStep old row) ∨ row ∈ new := by
    intro row hrow
    rw [hafter] at hrow
    rcases List.mem_append.mp hrow with hold | hnew
    · obtain ⟨old, hmem, rfl⟩ := List.mem_map.mp hold
      exact Or.inl ⟨old, hmem, steps old hmem⟩
    · exact Or.inr hnew
  refine ⟨?_, ?_, ?_, ?_, effect.distinct sound⟩
  · have hids : (db.channels.map next).map ChannelRow.channelId =
        db.channels.map ChannelRow.channelId := by
      rw [List.map_map]
      exact List.map_congr_left fun row hrow => (steps row hrow).channelId
    rw [hafter, List.map_append, hids]
    cases hnew : new with
    | nil => simpa using sound.unique
    | cons row rest =>
      obtain ⟨hsingle, -, -, -, fresh⟩ := newborn row (hnew ▸ List.mem_cons_self)
      rw [hnew] at hsingle
      obtain rfl := List.tail_eq_of_cons_eq hsingle
      refine List.nodup_append.mpr ⟨sound.unique, List.nodup_singleton _, ?_⟩
      intro id hid other hother hsame
      obtain ⟨old, hold, rfl⟩ := List.mem_map.mp hid
      rw [List.map_singleton, List.mem_singleton] at hother
      exact fresh old hold (hsame.trans hother)
  · intro row hrow
    rcases each row hrow with ⟨old, hold, step⟩ | hnew
    · have hfew := sound.few old hold
      cases step with
      | same => exact hfew
      | missed pending few => exact few
      | activated => exact hfew
      | disabled => exact hfew
    · rw [(newborn row hnew).2.2.1]
      exact Nat.zero_le _
  · intro row hrow hkind
    rcases each row hrow with ⟨old, hold, step⟩ | hnew
    · exact step.addressed (sound.addressed old hold (step.kind ▸ hkind))
    · exact (newborn row hnew).2.2.2.1 hkind
  · intro row hrow hactive
    rcases each row hrow with ⟨old, hold, step⟩ | hnew
    · exact step.targeted (sound.targeted old hold) hactive
    · exact absurd (hactive.symm.trans (newborn row hnew).2.1) (by decide)

end

section

variable {hmacSecret : String → Bytes} {toLowerCase : String → String} {db after : ChannelDb}
  {call : ChannelCall} {answer : Except Failure Answer} {channelId : String} {attempts : Nat}

/-- The channel is past its verification. -/
def Spent (channelId : String) (db : ChannelDb) : Prop :=
  ∃ row ∈ db.channels, row.channelId = channelId ∧ row.state ≠ .pending

theorem isActive_iff : isActive channelId db = true ↔
    ∃ row ∈ db.channels, row.channelId = channelId ∧ row.state = .active := by
  unfold isActive
  simp only [List.any_eq_true, decide_eq_true_eq]

theorem activates_iff {served : Served} : served.activates channelId = true ↔
    isActive channelId served.before = false ∧ isActive channelId served.after = true := by
  unfold Served.activates
  rw [Bool.and_eq_true, Bool.not_eq_true']

theorem Effect.activates (effect : Effect hmacSecret db call answer after)
    (h : Served.activates channelId ⟨db, call, answer, after⟩ = true) :
    ∃ row ∈ db.channels, ∃ text, row.channelId = channelId ∧ row.state = .pending ∧
      presented call = some text ∧ row.verificationHash = some (hmacSecret (trim text)) ∧
      ∃ now target, after.channels = updateWhere
        (fun other => decide (other.channelId = row.channelId)) (activatedRow now target)
          db.channels := by
  obtain ⟨hbefore, hafter⟩ := activates_iff.mp h
  dsimp only at hbefore hafter
  obtain ⟨row, hrow, hid, hactive⟩ := isActive_iff.mp hafter
  have new : ¬ (∃ old ∈ db.channels, old.channelId = channelId ∧ old.state = .active) :=
    fun hold => Bool.eq_false_iff.mp hbefore (isActive_iff.mpr hold)
  -- the activated row is the found one
  have found : ∀ (old : ChannelRow) (now : Int) (target : Option String),
      row ∈ updateWhere (fun other => decide (other.channelId = old.channelId))
        (activatedRow now target) db.channels → old.channelId = channelId := by
    intro old now target hupdated
    rcases mem_updateWhere.mp hupdated with ⟨other, -, hother, rfl⟩ | ⟨hold, -⟩
    · exact (of_decide_eq_true hother).symm.trans hid
    · exact absurd ⟨row, hold, hid, hactive⟩ new
  cases effect with
  | quiet => exact absurd ⟨row, hrow, hid, hactive⟩ new
  | created fresh targeted =>
    rcases List.mem_append.mp hrow with hold | hnew
    · exact absurd ⟨row, hold, hid, hactive⟩ new
    · obtain rfl := List.mem_singleton.mp hnew
      cases hactive
  | missed =>
    rcases mem_updateWhere.mp hrow with ⟨old, hold, -, rfl⟩ | ⟨hold, -⟩
    · exact absurd ⟨old, hold, hid, hactive⟩ new
    · exact absurd ⟨row, hold, hid, hactive⟩ new
  | verified hfound secret alone =>
    obtain ⟨hmem, hselected⟩ := of_found hfound
    obtain ⟨-, -, -, hpending⟩ := awaitsCode_iff.mp hselected
    exact ⟨_, hmem, _, found _ _ _ hrow, hpending, rfl, secret, _, _, rfl⟩
  | redeemed hfound alone =>
    obtain ⟨hmem, hselected⟩ := of_found hfound
    obtain ⟨-, hpending, hhash⟩ := awaitsToken_iff.mp hselected
    exact ⟨_, hmem, _, found _ _ _ hrow, hpending, rfl, hhash, _, _, rfl⟩
  | disabled =>
    rcases mem_updateWhere.mp hrow with ⟨old, -, -, rfl⟩ | ⟨hold, -⟩
    · cases hactive
    · exact absurd ⟨row, hold, hid, hactive⟩ new

theorem Effect.spent (effect : Effect hmacSecret db call answer after) (sound : Sound db)
    (spent : Spent channelId db) : Spent channelId after := by
  obtain ⟨row, hrow, hid, hstate⟩ := spent
  obtain ⟨next, new, hafter, steps, -⟩ := effect.evolves sound
  have step := steps row hrow
  refine ⟨next row, ?_, step.channelId.trans hid, fun hpending => hstate (step.pending hpending).1⟩
  rw [hafter]
  exact List.mem_append_left _ (List.mem_map_of_mem hrow)

theorem Spent.not_pending (spent : Spent channelId db) (sound : Sound db) {row : ChannelRow}
    (hrow : row ∈ db.channels) (hid : row.channelId = channelId) : row.state ≠ .pending := by
  obtain ⟨other, hother, hother_id, hstate⟩ := spent
  rwa [sound.eq_of_id hother hrow (hid.trans hother_id.symm)]

def Counted (channelId : String) (attempts : Nat) (db : ChannelDb) : Prop :=
  (∀ row ∈ db.channels, row.channelId = channelId → row.verificationAttempts = attempts) ∧
    ((∀ row ∈ db.channels, row.channelId ≠ channelId) → attempts = 0)

theorem Counted.update {selected : ChannelRow → Bool} {change : ChannelRow → ChannelRow}
    (counted : Counted channelId attempts db) (hid : ∀ row, (change row).channelId = row.channelId)
    (hattempts : ∀ row, (change row).verificationAttempts = row.verificationAttempts) :
    Counted channelId attempts { db with channels := updateWhere selected change db.channels } := by
  refine ⟨fun row hrow hrow_id => ?_, fun none_left => counted.2 fun row hrow hrow_id => ?_⟩
  · rcases mem_updateWhere.mp hrow with ⟨old, hold, -, rfl⟩ | ⟨hold, -⟩
    · rw [hattempts]
      exact counted.1 old hold ((hid old).symm.trans hrow_id)
    · exact counted.1 row hold hrow_id
  · by_cases hselected : selected row = true
    · exact none_left (change row) (mem_updateWhere.mpr (Or.inl ⟨row, hrow, hselected, rfl⟩))
        ((hid row).trans hrow_id)
    · exact none_left row (mem_updateWhere.mpr (Or.inr ⟨hrow, Bool.eq_false_iff.mpr hselected⟩))
        hrow_id

theorem Counted.of_right (right : call.wrongFor hmacSecret db = none)
    (counted : Counted channelId attempts after) :
    Counted channelId
      (attempts + if call.wrongFor hmacSecret db = some channelId then 1 else 0) after := by
  rwa [if_neg (by rw [right]; exact (Option.some_ne_none _).symm)]

theorem Effect.counted (effect : Effect hmacSecret db call answer after)
    (counted : Counted channelId attempts db) :
    Counted channelId
      (attempts + if call.wrongFor hmacSecret db = some channelId then 1 else 0) after := by
  cases effect with
  | quiet idle right => exact counted.of_right right
  | created fresh targeted =>
    refine Counted.of_right rfl ⟨fun row hrow hrow_id => ?_, fun none_left => counted.2 fun row hrow =>
      none_left row (List.mem_append_left _ hrow)⟩
    rcases List.mem_append.mp hrow with hold | hnew
    · exact counted.1 row hold hrow_id
    · obtain rfl := List.mem_singleton.mp hnew
      exact (counted.2 fun old hold => hrow_id ▸ fresh old hold).symm
  | @missed now accountId missed code row found few wrong =>
    rw [wrong]
    obtain ⟨hfound, hselected⟩ := of_found found
    obtain ⟨hfound_id, -, -, -⟩ := awaitsCode_iff.mp hselected
    by_cases hid : missed = channelId
    · subst hid
      rw [if_pos rfl]
      refine ⟨fun other hother hother_id => ?_, fun none_left => ?_⟩
      · rcases mem_updateWhere.mp hother with ⟨old, hold, hold_id, rfl⟩ | ⟨-, hold_id⟩
        · exact congrArg (· + 1) (counted.1 old hold (of_decide_eq_true hold_id))
        · exact absurd hother_id (of_decide_eq_false hold_id)
      · exact absurd hfound_id (none_left (missedRow row)
          (mem_updateWhere.mpr (Or.inl ⟨row, hfound, decide_eq_true hfound_id, rfl⟩)))
    · rw [if_neg fun h => hid (Option.some.inj h)]
      refine ⟨fun other hother hother_id => ?_, fun none_left => counted.2 fun other hother
        hother_id => ?_⟩
      · rcases mem_updateWhere.mp hother with ⟨old, -, hold_id, rfl⟩ | ⟨hold, -⟩
        · exact absurd ((of_decide_eq_true hold_id).symm.trans hother_id) hid
        · exact counted.1 other hold hother_id
      · exact none_left other (mem_updateWhere.mpr (Or.inr ⟨hother,
          decide_eq_false fun h => hid (h.symm.trans hother_id)⟩)) hother_id
  | @verified now accountId verified code row found secret alone =>
    have right : (ChannelCall.verifyEmailCode now accountId verified code).wrongFor hmacSecret
        db = none := by
      rw [wrongFor_verify hmacSecret now code found, secret]
      simp
    exact .of_right right (counted.update (fun _ => by rfl) fun _ => by rfl)
  | redeemed => exact .of_right rfl (counted.update (fun _ => by rfl) fun _ => by rfl)
  | disabled => exact .of_right rfl (counted.update (fun _ => by rfl) fun _ => by rfl)

end

end JbChat.Store.ChannelVerification
