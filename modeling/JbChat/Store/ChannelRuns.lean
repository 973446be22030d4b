/- source: src/production/storage/notificationChannelStore.ts
   digest: What a history of channel calls keeps, and the one case in which a right secret fails. -/

import JbChat.Store.ChannelVerification

set_option autoImplicit false

namespace JbChat.Store.ChannelRuns

open Foundation.HashTrace Foundation.Transaction Foundation.GapFree Delivery.ValueObjects
open Domain.Fulfillment Tables MembershipModel NotificationChannels ChannelVerification

section

variable {hmacSecret : String → Bytes} {db after : ChannelDb} {call : ChannelCall}
  {answer : Except Failure Answer} {hash : Bytes}

def pendingWith (hash : Bytes) (db : ChannelDb) : Nat :=
  (db.channels.filter (awaitsToken hash)).length

theorem pendingWith_update {selected : ChannelRow → Bool} {change : ChannelRow → ChannelRow}
    (steps : ∀ row, awaitsToken hash (change row) = true → awaitsToken hash row = true) :
    pendingWith hash { db with channels := updateWhere selected change db.channels } ≤
      pendingWith hash db := by
  unfold pendingWith updateWhere
  dsimp only
  rw [← List.countP_eq_length_filter, ← List.countP_eq_length_filter, List.countP_map]
  refine List.countP_mono_left fun row _ hrow => ?_
  dsimp only [Function.comp] at hrow
  split at hrow
  · exact steps row hrow
  · exact hrow

theorem awaitsToken_pendingRow {now : Int} {entropy : ChannelEntropy}
    {accountId display : String} {kind : ChannelKind} {target : Option String}
    (h : awaitsToken hash (pendingRow hmacSecret now entropy accountId kind target display) =
      true) : kind = .telegram ∧ hmacSecret (entropy.secret .telegram) = hash := by
  obtain ⟨hkind, -, hhash⟩ := awaitsToken_iff.mp h
  obtain rfl : kind = .telegram := hkind
  change (if entropy.secret .telegram = "" then none else some (hmacSecret (entropy.secret .telegram)))
    = some hash at hhash
  rw [if_neg (secret_ne_empty entropy (by decide))] at hhash
  exact ⟨rfl, Option.some.inj hhash⟩

theorem mem_awaiting {row : ChannelRow} :
    row ∈ db.channels.filter (awaitsToken hash) ↔ row ∈ db.channels ∧ row.kind = .telegram ∧
      row.state = .pending ∧ row.verificationHash = some hash := by
  rw [List.mem_filter, awaitsToken_iff]

theorem pendingWith_le (effect : Effect hmacSecret db call answer after) :
    pendingWith hash after ≤ pendingWith hash db + (tokenHashes hmacSecret [call]).count hash := by
  -- an activated or disabled row waits for no token
  have settles : ∀ {selected : ChannelRow → Bool} {change : ChannelRow → ChannelRow},
      (∀ row, (change row).state ≠ .pending) → ∀ drawn,
        pendingWith hash { db with channels := updateWhere selected change db.channels } ≤
          pendingWith hash db + drawn := fun hstate drawn =>
    (pendingWith_update fun row hrow => absurd (awaitsToken_iff.mp hrow).2.1 (hstate row)).trans
      (Nat.le_add_right _ drawn)
  cases effect with
  | quiet idle => exact Nat.le_add_right _ _
  | @created now entropy accountId given display kind target fresh targeted =>
    unfold pendingWith
    dsimp only
    rw [List.filter_append, List.length_append]
    refine Nat.add_le_add_left ?_ _
    by_cases hawaits : awaitsToken hash
        (pendingRow hmacSecret now entropy accountId kind target display) = true
    · obtain ⟨rfl, rfl⟩ := awaitsToken_pendingRow hawaits
      simp [tokenHashes, hawaits]
    · simp [hawaits]
  | missed =>
    have hmissed : ∀ row, awaitsToken hash (missedRow row) = true → awaitsToken hash row = true :=
      fun row hrow => awaitsToken_iff.mpr (awaitsToken_iff.mp hrow)
    exact (pendingWith_update hmissed).trans (Nat.le_add_right _ _)
  | verified | redeemed | disabled => exact settles (fun _ => by rintro ⟨⟩) _

theorem pendingWith_of_redeems {token : String} (effect : Effect hmacSecret db call answer after)
    (h : Served.redeems token ⟨db, call, answer, after⟩ = true) :
    pendingWith (hmacSecret (trim token)) db = 1 ∧
      pendingWith (hmacSecret (trim token)) after = 0 := by
  cases effect with
  | quiet idle =>
    unfold Served.redeems at h
    dsimp only at h
    split at h
    · exact idle.elim
    · cases h
  | created | missed | verified => cases h
  | @redeemed now presented chatId row found alone =>
    have hsame : trim presented = trim token := of_decide_eq_true h
    rw [hsame] at found
    refine ⟨congrArg List.length found, List.length_eq_zero_iff.mpr
      (List.eq_nil_iff_forall_not_mem.mpr fun other hother => ?_)⟩
    obtain ⟨hmem, hkind, hpending, hhash⟩ := mem_awaiting.mp hother
    rcases mem_updateWhere.mp hmem with ⟨old, -, -, rfl⟩ | ⟨hold, hid⟩
    · cases hpending
    · have hawaits : other ∈ db.channels.filter (awaitsToken (hmacSecret (trim token))) :=
        mem_awaiting.mpr ⟨hold, hkind, hpending, hhash⟩
      rw [found, List.mem_singleton] at hawaits
      exact of_decide_eq_false hid (congrArg ChannelRow.channelId hawaits)
  | disabled => cases h

end

section

variable {hmacSecret : String → Bytes} {toLowerCase : String → String} {db : ChannelDb}
  {channelId : String}

theorem serve_cons (call : ChannelCall) (calls : List ChannelCall) :
    serve hmacSecret toLowerCase (call :: calls) db =
      ⟨db, call, (call.run hmacSecret toLowerCase db).1,
          (call.run hmacSecret toLowerCase db).2⟩ ::
        serve hmacSecret toLowerCase calls (call.run hmacSecret toLowerCase db).2 := rfl

theorem runCalls_cons (call : ChannelCall) (calls : List ChannelCall) :
    runCalls hmacSecret toLowerCase (call :: calls) db =
      runCalls hmacSecret toLowerCase calls (call.run hmacSecret toLowerCase db).2 := rfl

theorem sound_runCalls (calls : List ChannelCall) (sound : Sound db) :
    Sound (runCalls hmacSecret toLowerCase calls db) := by
  induction calls generalizing db with
  | nil => exact sound
  | cons call calls ih => exact ih ((run_effect call).sound sound)

theorem serve_effect (calls : List ChannelCall) (sound : Sound db) :
    ∀ served ∈ serve hmacSecret toLowerCase calls db, Sound served.before ∧
      Effect hmacSecret served.before served.call served.answer served.after := by
  induction calls generalizing db with
  | nil => exact fun _ h => absurd h List.not_mem_nil
  | cons call calls ih =>
    intro served hserved
    rcases List.mem_cons.mp hserved with rfl | hlater
    · exact ⟨sound, run_effect call⟩
    · exact ih ((run_effect call).sound sound) served hlater

theorem not_activates_of_spent (calls : List ChannelCall) (sound : Sound db)
    (spent : Spent channelId db) : ∀ served ∈ serve hmacSecret toLowerCase calls db,
      ¬ served.activates channelId = true := by
  induction calls generalizing db with
  | nil => exact fun _ h => absurd h List.not_mem_nil
  | cons call calls ih =>
    have effect : Effect hmacSecret db call (call.run hmacSecret toLowerCase db).1 _ :=
      run_effect call
    intro served hserved
    rcases List.mem_cons.mp hserved with rfl | hlater
    · intro h
      obtain ⟨row, hrow, -, hid, hpending, -⟩ := effect.activates h
      exact spent.not_pending sound hrow hid hpending
    · exact ih (effect.sound sound) (effect.spent sound spent) served hlater

theorem activations_le_one (calls : List ChannelCall) (sound : Sound db) (channelId : String) :
    ((serve hmacSecret toLowerCase calls db).filter (Served.activates channelId)).length ≤ 1 := by
  induction calls generalizing db with
  | nil => exact Nat.zero_le _
  | cons call calls ih =>
    have effect : Effect hmacSecret db call (call.run hmacSecret toLowerCase db).1 _ :=
      run_effect call
    rw [serve_cons]
    by_cases h : Served.activates channelId ⟨db, call, (call.run hmacSecret toLowerCase db).1,
        (call.run hmacSecret toLowerCase db).2⟩ = true
    · -- the later calls find the channel spent
      have spent : Spent channelId (call.run hmacSecret toLowerCase db).2 := by
        obtain ⟨row, hrow, hid, hactive⟩ := isActive_iff.mp (activates_iff.mp h).2
        exact ⟨row, hrow, hid, by rw [hactive]; decide⟩
      rw [List.filter_cons_of_pos h, List.filter_eq_nil_iff.mpr
        (not_activates_of_spent calls (effect.sound sound) spent)]
      exact Nat.le_refl 1
    · rw [List.filter_cons_of_neg h]
      exact ih (effect.sound sound)

theorem wrongCodes_cons (served : Served) (history : List Served) :
    wrongCodes hmacSecret channelId (served :: history) =
      (if served.call.wrongFor hmacSecret served.before = some channelId then 1 else 0) +
        wrongCodes hmacSecret channelId history := by
  unfold wrongCodes
  rw [List.filter_cons]
  by_cases h : served.call.wrongFor hmacSecret served.before = some channelId
  · rw [if_pos (decide_eq_true h), if_pos h, List.length_cons, Nat.add_comm]
  · rw [if_neg (by rw [decide_eq_true_eq]; exact h), if_neg h, Nat.zero_add]

theorem counted_runCalls (calls : List ChannelCall) {attempts : Nat}
    (counted : Counted channelId attempts db) :
    Counted channelId
      (attempts + wrongCodes hmacSecret channelId (serve hmacSecret toLowerCase calls db))
      (runCalls hmacSecret toLowerCase calls db) := by
  induction calls generalizing db attempts with
  | nil => exact counted
  | cons call calls ih =>
    have effect : Effect hmacSecret db call (call.run hmacSecret toLowerCase db).1 _ :=
      run_effect call
    rw [serve_cons, wrongCodes_cons, ← Nat.add_assoc]
    exact ih (effect.counted counted)

theorem redemptions_le (calls : List ChannelCall) (token : String) :
    ((serve hmacSecret toLowerCase calls db).filter (Served.redeems token)).length +
        pendingWith (hmacSecret (trim token)) (runCalls hmacSecret toLowerCase calls db) ≤
      pendingWith (hmacSecret (trim token)) db +
        (tokenHashes hmacSecret calls).count (hmacSecret (trim token)) := by
  induction calls generalizing db with
  | nil => exact Nat.le_of_eq (Nat.add_comm _ _)
  | cons call calls ih =>
    have effect : Effect hmacSecret db call (call.run hmacSecret toLowerCase db).1 _ :=
      run_effect call
    have later := @ih (call.run hmacSecret toLowerCase db).2
    have hdrawn : tokenHashes hmacSecret (call :: calls) =
        tokenHashes hmacSecret [call] ++ tokenHashes hmacSecret calls :=
      List.filterMap_append (l := [call])
    rw [serve_cons, runCalls_cons, hdrawn, List.count_append]
    by_cases h : Served.redeems token ⟨db, call, (call.run hmacSecret toLowerCase db).1,
        (call.run hmacSecret toLowerCase db).2⟩ = true
    · obtain ⟨hone, hnone⟩ := pendingWith_of_redeems effect h
      rw [List.filter_cons_of_pos h, List.length_cons, hone]
      rw [hnone] at later
      omega
    · have hle : pendingWith (hmacSecret (trim token)) _ ≤ _ := pendingWith_le effect
      rw [List.filter_cons_of_neg h]
      omega

end

section

variable {hmacSecret : String → Bytes} {toLowerCase : String → String} {db : ChannelDb}
  {channelId secret : String} {after : ChannelDb} {call : ChannelCall}

def Origin (hmacSecret : String → Bytes) (channelId secret : String) (db : ChannelDb) : Prop :=
  trim secret = secret ∧ ∃ row ∈ db.channels, row.channelId = channelId ∧
    (row.state = .pending → row.kind ≠ .whatsapp →
      row.verificationHash = some (hmacSecret secret))

theorem origin_of_effect {answer : Except Failure Answer}
    (effect : Effect hmacSecret db call answer after) (sound : Sound db)
    (origin : Origin hmacSecret channelId secret db) :
    Origin hmacSecret channelId secret after := by
  obtain ⟨htrim, row, hrow, hid, hhash⟩ := origin
  obtain ⟨next, new, hafter, steps, -⟩ := effect.evolves sound
  have step := steps row hrow
  refine ⟨htrim, next row, ?_, step.channelId.trans hid, fun hpending hkind => ?_⟩
  · rw [hafter]
    exact List.mem_append_left _ (List.mem_map_of_mem hrow)
  · obtain ⟨hbefore, hsame⟩ := step.pending hpending
    rw [hsame]
    exact hhash hbefore (step.kind ▸ hkind)

theorem origin_runCalls (calls : List ChannelCall) (sound : Sound db)
    (origin : Origin hmacSecret channelId secret db) :
    Origin hmacSecret channelId secret (runCalls hmacSecret toLowerCase calls db) := by
  induction calls generalizing db with
  | nil => exact origin
  | cons call calls ih =>
    have effect : Effect hmacSecret db call (call.run hmacSecret toLowerCase db).1 _ :=
      run_effect call
    exact ih (effect.sound sound) (origin_of_effect effect sound origin)

theorem origin_of_created {kind : ChannelKind}
    (effect : Effect hmacSecret db call (.ok (.creation (.created channelId secret kind))) after) :
    Origin hmacSecret channelId secret after := by
  generalize hanswer : (Except.ok (Answer.creation (.created channelId secret kind)) :
    Except Failure Answer) = answer at effect
  cases effect with
  | quiet idle =>
    subst hanswer
    exact idle.elim
  | @created now entropy accountId given display created target fresh targeted =>
    obtain ⟨rfl, rfl, rfl⟩ : channelId = entropy.channelId ∧ secret = entropy.secret created ∧
      kind = created := by simpa using hanswer
    refine ⟨trim_secret entropy kind, _, List.mem_append_right _ (List.mem_singleton.mpr rfl),
      rfl, fun _ hkind => ?_⟩
    change kind ≠ .whatsapp at hkind
    unfold pendingRow
    dsimp only
    rw [if_neg (secret_ne_empty entropy hkind)]
  | missed | verified | redeemed | disabled => cases hanswer

theorem origin_of_issued (calls : List ChannelCall) (sound : Sound db)
    (issued : Issued (serve hmacSecret toLowerCase calls db) channelId secret) :
    Origin hmacSecret channelId secret (runCalls hmacSecret toLowerCase calls db) := by
  induction calls generalizing db with
  | nil =>
    obtain ⟨served, hserved, -⟩ := issued
    exact absurd hserved List.not_mem_nil
  | cons call calls ih =>
    have effect : Effect hmacSecret db call (call.run hmacSecret toLowerCase db).1 _ :=
      run_effect call
    obtain ⟨served, hserved, kind, hanswer⟩ := issued
    rcases List.mem_cons.mp hserved with rfl | hlater
    · change (call.run hmacSecret toLowerCase db).1 = _ at hanswer
      rw [hanswer] at effect
      exact origin_runCalls calls (effect.sound sound) (origin_of_created effect)
    · exact ih (effect.sound sound) ⟨served, hlater, kind, hanswer⟩

end

section

variable {hmacSecret : String → Bytes} {toLowerCase : String → String} {db : ChannelDb}
  {row : ChannelRow} {now : Int} {target : Option String}

theorem activeKey_eq_some {accountId target : String} {kind : ChannelKind} :
    row.activeKey = some (accountId, kind, target) ↔ row.state = .active ∧
      row.accountId = accountId ∧ row.kind = kind ∧ row.target = some target := by
  unfold ChannelRow.activeKey
  by_cases hactive : row.state = .active
  · rw [if_pos hactive, Option.map_eq_some_iff]
    constructor
    · rintro ⟨held, htarget, hkey⟩
      obtain ⟨haccount, hkind, rfl⟩ : row.accountId = accountId ∧ row.kind = kind ∧ held = target :=
        by simpa using hkey
      exact ⟨hactive, haccount, hkind, htarget⟩
    · rintro ⟨-, rfl, rfl, htarget⟩
      exact ⟨target, htarget, rfl⟩
  · rw [if_neg hactive]
    exact ⟨fun h => absurd h.symm (Option.some_ne_none _), fun h => absurd h.1 hactive⟩

theorem hasTwin_iff (targeted : target ≠ none) :
    hasTwin (activatedRow now target row) db = true ↔ Twin db row target := by
  obtain ⟨text, rfl⟩ := Option.ne_none_iff_exists'.mp targeted
  have hkey : (activatedRow now (some text) row).activeKey =
      some (row.accountId, row.kind, text) := rfl
  unfold hasTwin Twin
  rw [hkey, Option.isSome_some, Bool.true_and, List.any_eq_true]
  simp only [decide_eq_true_eq, activeKey_eq_some]
  rfl

theorem noTwins_of_sound (sound : Sound db) : NoTwins db := by
  rintro row hrow hactive ⟨other, hother, hid, hother_active, haccount, hkind, htarget⟩
  obtain ⟨text, htext⟩ := Option.ne_none_iff_exists'.mp (sound.targeted row hrow hactive)
  have hkey : row.activeKey = some (row.accountId, row.kind, text) :=
    activeKey_eq_some.mpr ⟨hactive, rfl, rfl, htext⟩
  have hsame : other.activeKey = row.activeKey :=
    (activeKey_eq_some.mpr ⟨hother_active, haccount, hkind, htarget.trans htext⟩).trans hkey.symm
  exact hid (sound.distinct row hrow other hother (hkey ▸ Option.some_ne_none _) hsame)

theorem isExpired_eq_false {expiresAt : Int} (deadline : row.verificationExpiresAt = some expiresAt)
    (early : now < expiresAt) :
    isExpired now row = false := by
  unfold isExpired
  rw [deadline, Option.getD_some]
  exact decide_eq_false (Int.not_le.mpr early)

theorem activation_answer {α : Type} {tx : Tx ChannelDb Failure α} {result : α} {wrap : α → Answer}
    (targeted : target ≠ none)
    (htx : tx db = (activateChannel now target row db).bind fun db => .ok (result, db)) :
    (((sqlBegin tx db).map (Except.map wrap) id).1 = .ok (wrap result) ↔
      ¬ Twin db row target) := by
  have htwin : hasTwin (activatedRow now target row) db = true ↔ Twin db row target :=
    hasTwin_iff targeted
  rw [← htwin]
  unfold activateChannel at htx
  unfold sqlBegin
  rw [htx]
  by_cases h : hasTwin (activatedRow now target row) db = true
  · rw [if_pos h]
    simp [Except.bind, Except.map, h]
  · rw [if_neg h]
    simp [Except.bind, Except.map, h]

theorem filter_awaitsCode (sound : Sound db) (hrow : row ∈ db.channels) (kind : row.kind = .email)
    (pending : row.state = .pending) :
    db.channels.filter (awaitsCode row.accountId row.channelId) = [row] := by
  have hsame : db.channels.filter (awaitsCode row.accountId row.channelId) =
      keyed ChannelRow.channelId row.channelId db.channels := by
    refine List.filter_congr fun other hother => ?_
    by_cases hid : other.channelId = row.channelId
    · obtain rfl := sound.eq_of_id hrow hother hid
      rw [awaitsCode_iff.mpr ⟨rfl, rfl, kind, pending⟩, decide_eq_true rfl]
    · rw [decide_eq_false hid]
      exact Bool.eq_false_iff.mpr fun h => hid (awaitsCode_iff.mp h).1
  rw [hsame]
  exact keyed_of_nodup sound.unique hrow

theorem verifyEmailCodeTx_eq {code : String}
    (found : db.channels.filter (awaitsCode row.accountId row.channelId) = [row])
    (hhash : row.verificationHash = some (hmacSecret (trim code)))
    (early : isExpired now row = false) (few : row.verificationAttempts < maxVerifyAttempts) :
    verifyEmailCodeTx hmacSecret now row.accountId row.channelId code db =
      (activateChannel now row.target row db).bind fun db => .ok (.active, db) := by
  unfold verifyEmailCodeTx
  rw [found]
  unfold onlyRow
  dsimp only
  rw [hhash]
  dsimp only
  rw [if_neg (by rw [early]; exact Bool.false_ne_true), if_neg (Nat.not_le.mpr few),
    if_neg (not_not.mpr rfl)]
  rfl

theorem redeemTelegramTokenTx_eq {token chatId : String}
    (found : db.channels.filter (awaitsToken (hmacSecret (trim token))) = [row])
    (early : isExpired now row = false) :
    redeemTelegramTokenTx hmacSecret now token chatId db =
      (activateChannel now (some chatId) row db).bind fun db => .ok (some row.accountId, db) := by
  unfold redeemTelegramTokenTx
  rw [found]
  unfold onlyRow
  dsimp only
  rw [if_neg (by rw [early]; exact Bool.false_ne_true)]
  rfl

end

section

variable (hmacSecret : String → Bytes) (toLowerCase : String → String) {db : ChannelDb}
  {call : ChannelCall} {calls : List ChannelCall}

theorem sound_empty (accounts : List String) : Sound ⟨accounts, []⟩ where
  unique := List.nodup_nil
  few _ h := absurd h List.not_mem_nil
  addressed _ h := absurd h List.not_mem_nil
  targeted _ h := absurd h List.not_mem_nil
  distinct _ h := absurd h List.not_mem_nil

variable {hmacSecret toLowerCase}

theorem counted_empty (accounts : List String) (channelId : String) :
    Counted channelId 0 ⟨accounts, []⟩ :=
  ⟨fun _ h => absurd h List.not_mem_nil, fun _ => rfl⟩

theorem wrongCodes_le (accounts : List String) (calls : List ChannelCall) (channelId : String) :
    wrongCodes hmacSecret channelId (serve hmacSecret toLowerCase calls ⟨accounts, []⟩) ≤
      maxVerifyAttempts := by
  have sound : Sound (runCalls hmacSecret toLowerCase calls ⟨accounts, []⟩) :=
    sound_runCalls calls (sound_empty accounts)
  obtain ⟨hrows, hnone⟩ : Counted channelId _ (runCalls hmacSecret toLowerCase calls _) :=
    counted_runCalls calls (counted_empty accounts channelId)
  rw [Nat.zero_add] at hrows hnone
  by_cases h : ∃ row ∈ (runCalls hmacSecret toLowerCase calls ⟨accounts, []⟩).channels,
      row.channelId = channelId
  · obtain ⟨row, hrow, hid⟩ := h
    rw [← hrows row hrow hid]
    exact sound.few row hrow
  · rw [hnone fun row hrow hid => h ⟨row, hrow, hid⟩]
    exact Nat.zero_le _

theorem single_of_effect {after : ChannelDb} {answer : Except Failure Answer}
    {channelId other : String} (effect : Effect hmacSecret db call answer after)
    (h : Served.activates channelId ⟨db, call, answer, after⟩ = true)
    (hother : Served.activates other ⟨db, call, answer, after⟩ = true) : channelId = other := by
  obtain ⟨row, -, -, rfl, -, -, -, now, target, hafter⟩ := effect.activates h
  obtain ⟨hbefore, hactive⟩ := activates_iff.mp hother
  obtain ⟨found, hfound, rfl, hstate⟩ := isActive_iff.mp hactive
  change found ∈ after.channels at hfound
  rw [hafter] at hfound
  rcases mem_updateWhere.mp hfound with ⟨old, -, hid, rfl⟩ | ⟨hold, -⟩
  · exact (of_decide_eq_true hid).symm
  · exact absurd (isActive_iff.mpr ⟨found, hold, rfl, hstate⟩) (by rw [hbefore]; decide)

theorem answer_iff {accounts : List String} (fresh : (tokenHashes hmacSecret calls).Nodup)
    {row : ChannelRow} {target : Option String} {success : Answer}
    (presents : Presents hmacSecret (serve hmacSecret toLowerCase calls ⟨accounts, []⟩)
      (runCalls hmacSecret toLowerCase calls ⟨accounts, []⟩) call row target success) :
    (call.run hmacSecret toLowerCase (runCalls hmacSecret toLowerCase calls ⟨accounts, []⟩)).1 =
        .ok success ↔
      ¬ Twin (runCalls hmacSecret toLowerCase calls ⟨accounts, []⟩) row target := by
  have sound : Sound (runCalls hmacSecret toLowerCase calls ⟨accounts, []⟩) :=
    sound_runCalls calls (sound_empty accounts)
  -- the row waits for the hash of the issued secret
  have waits : ∀ {row secret}, row ∈ (runCalls hmacSecret toLowerCase calls
        ⟨accounts, []⟩).channels → row.state = .pending → row.kind ≠ .whatsapp →
      Issued (serve hmacSecret toLowerCase calls ⟨accounts, []⟩) row.channelId secret →
        row.verificationHash = some (hmacSecret (trim secret)) := by
    intro row secret hrow pending kind issued
    obtain ⟨htrim, other, hother, hid, hhash⟩ :=
      origin_of_issued calls (sound_empty accounts) issued
    obtain rfl := sound.eq_of_id hrow hother hid
    rw [htrim]
    exact hhash pending kind
  cases presents with
  | code stored pending kind issued deadline early few =>
    have hhash := waits stored pending (by rw [kind]; decide) issued
    have hfew := (counted_runCalls calls (counted_empty accounts row.channelId)).1 row stored rfl
    rw [Nat.zero_add] at hfew
    exact activation_answer (sound.addressed row stored kind) (verifyEmailCodeTx_eq
      (filter_awaitsCode sound stored kind pending) hhash (isExpired_eq_false deadline early)
      (hfew ▸ few))
  | @token _ now expiresAt token chatId stored pending kind issued deadline early =>
    have hhash := waits stored pending (by rw [kind]; decide) issued
    have hone : ((serve hmacSecret toLowerCase calls ⟨accounts, []⟩).filter _).length + _ ≤ _ :=
      redemptions_le calls token
    have hdrawn := List.nodup_iff_count_le_one.mp fresh (hmacSecret (trim token))
    have hstart : pendingWith (hmacSecret (trim token)) ⟨accounts, []⟩ = 0 := rfl
    have hmem := mem_awaiting.mpr ⟨stored, kind, pending, hhash⟩
    -- no other channel is pending for the token
    have found : (runCalls hmacSecret toLowerCase calls ⟨accounts, []⟩).channels.filter
        (awaitsToken (hmacSecret (trim token))) = [row] := by
      unfold pendingWith at hone hstart
      have hpos := List.length_pos_of_mem hmem
      obtain ⟨only, honly⟩ := List.length_eq_one_iff.mp (by omega :
        ((runCalls hmacSecret toLowerCase calls ⟨accounts, []⟩).channels.filter
          (awaitsToken (hmacSecret (trim token)))).length = 1)
      rw [honly, List.mem_singleton] at hmem
      rw [honly, hmem]
    exact activation_answer (Option.some_ne_none _)
      (redeemTelegramTokenTx_eq found (isExpired_eq_false deadline early))

theorem tokenOnce_of_fresh (accounts : List String) (fresh : (tokenHashes hmacSecret calls).Nodup)
    (token : String) :
    ((serve hmacSecret toLowerCase calls ⟨accounts, []⟩).filter
      (Served.redeems token)).length ≤ 1 := by
  have hone : ((serve hmacSecret toLowerCase calls ⟨accounts, []⟩).filter _).length + _ ≤ _ :=
    redemptions_le calls token
  have hdrawn := List.nodup_iff_count_le_one.mp fresh (hmacSecret (trim token))
  have hstart : pendingWith (hmacSecret (trim token)) ⟨accounts, []⟩ = 0 := rfl
  omega

variable (hmacSecret toLowerCase)

/-- In every history of channel calls, the right secret of a pending channel is refused only where
the account has an active channel of the kind with the target already. -/
theorem channels_verify_once (accounts : List String) (calls : List ChannelCall)
    (fresh : (tokenHashes hmacSecret calls).Nodup) :
    VerifiesOnce hmacSecret toLowerCase (serve hmacSecret toLowerCase calls ⟨accounts, []⟩)
      (runCalls hmacSecret toLowerCase calls ⟨accounts, []⟩) := by
  have effects : ∀ served ∈ serve hmacSecret toLowerCase calls ⟨accounts, []⟩,
      Sound served.before ∧ Effect hmacSecret served.before served.call served.answer
        served.after := serve_effect calls (sound_empty accounts)
  exact {
    answered := fun _ _ _ _ => answer_iff fresh
    secret := by
      intro served hserved channelId h
      obtain ⟨row, hrow, text, hid, -, htext, hhash, -⟩ := (effects served hserved).2.activates h
      exact ⟨row, hrow, text, hid, htext, hhash⟩
    single := fun served hserved _ _ => single_of_effect (effects served hserved).2
    once := activations_le_one calls (sound_empty accounts)
    tokenOnce := tokenOnce_of_fresh accounts fresh
    wrong := wrongCodes_le accounts calls
    distinct := noTwins_of_sound (sound_runCalls calls (sound_empty accounts)) }

end

def sampleHmac (secret : String) : Bytes := secret.toList.map fun c => UInt8.ofNat c.toNat

def sampleLower (text : String) : String := String.ofList (text.toList.map Char.toLower)

def sampleEntropy (channelId : String) (code : Fin 1000000) (byte : UInt8) : ChannelEntropy :=
  ⟨channelId, code, Vector.replicate 24 byte⟩

def sampleCalls : List ChannelCall :=
  [.createChannel 0 (sampleEntropy "first" 111111 0) "owner" .email "Me@site.org",
    .createChannel 1 (sampleEntropy "second" 222222 0) "owner" .email "me@site.org",
    .createChannel 2 (sampleEntropy "third" 0 7) "owner" .telegram "",
    .verifyEmailCode 3 "owner" "first" "111111"]

def secondRow : ChannelRow :=
  pendingRow sampleHmac 1 (sampleEntropy "second" 222222 0) "owner" .email (some "me@site.org")
    "me@site.org"

/-- The code of the second channel is right, and it throws. -/
theorem second_code_throws :
    Presents sampleHmac (serve sampleHmac sampleLower sampleCalls ⟨["owner"], []⟩)
      (runCalls sampleHmac sampleLower sampleCalls ⟨["owner"], []⟩)
      (.verifyEmailCode 4 "owner" "second" "222222") secondRow secondRow.target
      (.verification .active) ∧
    ((ChannelCall.verifyEmailCode 4 "owner" "second" "222222").run sampleHmac sampleLower
      (runCalls sampleHmac sampleLower sampleCalls ⟨["owner"], []⟩)).1 =
        .error (.sql "notification_channels_unique_active") := by
  have stored : secondRow ∈
      (runCalls sampleHmac sampleLower sampleCalls ⟨["owner"], []⟩).channels := by
    decide +kernel
  have issued : Issued (serve sampleHmac sampleLower sampleCalls ⟨["owner"], []⟩) "second"
      "222222" :=
    ⟨_, List.mem_cons_of_mem _ List.mem_cons_self, .email, by decide +kernel⟩
  exact ⟨.code stored rfl rfl issued rfl (by decide) (by decide +kernel), by decide +kernel⟩

theorem channels_verify_once_sample :
    (tokenHashes sampleHmac sampleCalls).Nodup ∧ VerifiesOnce sampleHmac sampleLower
      (serve sampleHmac sampleLower sampleCalls ⟨["owner"], []⟩)
      (runCalls sampleHmac sampleLower sampleCalls ⟨["owner"], []⟩) :=
  have fresh : (tokenHashes sampleHmac sampleCalls).Nodup := List.nodup_singleton _
  ⟨fresh, channels_verify_once sampleHmac sampleLower ["owner"] sampleCalls fresh⟩

end JbChat.Store.ChannelRuns
