/- source: none
   digest: Transactions that hold the locks of their rows until they end, and what waits for what. -/

import JbChat.Foundation.GuardedRun
import Mathlib.Logic.Relation

/-!
A transaction is a script of its statements that lock rows. It reads the committed rows, and what
it writes is committed at its end. A statement locks its rows one by one, in any order, and waits
for a row that another transaction holds; a row the transaction holds already is not asked for
again. A transaction may also be given up at any time, which frees its rows.
-/

set_option autoImplicit false

namespace JbChat.Foundation.RowLocks

open GuardedRun

/-- A transaction from its next statement on. The rest of it sees which rows were selected. -/
inductive Script (σ ρ : Type) where
  | commit (write : σ → σ)
  | lock (rows : σ → List ρ) (next : List ρ → σ → Script σ ρ)
  | skipLocked (pick : List ρ → σ → Option ρ) (next : List ρ → σ → Script σ ρ)

/-- Statements whose answers decide nothing, and what follows them. -/
def Script.lockEach {σ ρ : Type} : List (σ → List ρ) → Script σ ρ → Script σ ρ
  | [], last => last
  | rows :: others, last => .lock rows fun _ _ => lockEach others last

/-- A running transaction: the rows it holds and the rows its statement still asks for. -/
structure Session (σ ρ τ : Type) where
  request : τ
  held : List ρ
  pending : List ρ
  next : σ → Script σ ρ

/-- The committed rows and the transactions; the place of an ended one is empty. -/
structure Server (σ ρ τ : Type) where
  db : σ
  sessions : List (Option (Session σ ρ τ))

inductive Event (ρ τ : Type) where
  | start (request : τ)
  | acquire (index : Nat) (row : ρ)
  | advance (index : Nat)
  | abort (index : Nat)

section

variable {σ ρ τ : Type} [DecidableEq ρ]

namespace Server

def session (server : Server σ ρ τ) (index : Nat) : Option (Session σ ρ τ) :=
  (server.sessions[index]?).join

def put (server : Server σ ρ τ) (index : Nat) (session : Option (Session σ ρ τ)) :
    Server σ ρ τ :=
  { server with sessions := server.sessions.set index session }

/-- The rows that the other transactions hold. -/
def lockedByOthers (server : Server σ ρ τ) (index : Nat) : List ρ :=
  (server.sessions.eraseIdx index).flatMap fun session => match session with
    | none => []
    | some session => session.held

/-- The next statement of a transaction whose rows are all locked. -/
def advance (server : Server σ ρ τ) (index : Nat) (session : Session σ ρ τ) : Server σ ρ τ :=
  match session.next server.db with
  | .commit write => { server.put index none with db := write server.db }
  | .lock rows next => server.put index (some { session with
      pending := (rows server.db).filter (· ∉ session.held)
      next := next (rows server.db) })
  | .skipLocked pick next =>
    let locked := server.lockedByOthers index
    server.put index (some { session with
      held := ((pick locked server.db).filter (· ∉ locked)).toList ++ session.held
      next := next locked })

variable (script : τ → σ → Script σ ρ)

def take : Event ρ τ → Server σ ρ τ → Option (Server σ ρ τ)
  | .start request, server => some { server with
      sessions := server.sessions ++ [some ⟨request, [], [], script request⟩] }
  | .acquire index row, server => do
    let session ← server.session index
    if row ∈ session.pending ∧ row ∉ server.lockedByOthers index then
      some (server.put index (some { session with
        held := row :: session.held
        pending := session.pending.filter (· ≠ row) }))
    else none
  | .advance index, server => do
    let session ← server.session index
    if session.pending = [] then some (server.advance index session) else none
  | .abort index, server => do
    let _ ← server.session index
    some (server.put index none)

/-- A server before its first transaction. -/
def idle (db : σ) : Server σ ρ τ := ⟨db, []⟩

/-- The transaction asks for a row that another one holds. -/
def WaitsOn (server : Server σ ρ τ) (index : Nat) (row : ρ) (holder : Nat) : Prop :=
  index ≠ holder ∧ (∃ session ∈ server.session index, row ∈ session.pending) ∧
    ∃ session ∈ server.session holder, row ∈ session.held

def Waits (server : Server σ ρ τ) (index holder : Nat) : Prop :=
  ∃ row, server.WaitsOn index row holder

/-- A transaction waits, through others, for itself. -/
def Deadlocked (server : Server σ ρ τ) : Prop := ∃ index, Relation.TransGen server.Waits index index

end Server

end

section

variable {σ ρ τ : Type} {server : Server σ ρ τ} {index : Nat}
  {session : Session σ ρ τ}

namespace Server

theorem session_put_self {put : Option (Session σ ρ τ)}
    (h : server.session index = some session) : (server.put index put).session index = put := by
  unfold Server.session at h
  cases hplace : server.sessions[index]? with
  | none =>
    rw [hplace] at h
    cases h
  | some place =>
    obtain ⟨hlt, -⟩ := List.getElem?_eq_some_iff.mp hplace
    unfold Server.session Server.put
    rw [List.getElem?_set_self hlt]
    rfl

theorem session_put_ne {put : Option (Session σ ρ τ)} {other : Nat} (h : index ≠ other) :
    (server.put index put).session other = server.session other := by
  unfold Server.session Server.put
  rw [List.getElem?_set_ne h]

theorem session_start {started : Session σ ρ τ} {other : Nat} {found : Session σ ρ τ}
    (h : Server.session { server with sessions := server.sessions ++ [some started] } other =
      some found) :
    server.session other = some found ∨ (other = server.sessions.length ∧ found = started) := by
  unfold Server.session at h ⊢
  dsimp only at h
  rcases Nat.lt_or_ge other server.sessions.length with hlt | hge
  · rw [List.getElem?_append_left hlt] at h
    exact Or.inl h
  · rw [List.getElem?_append_right hge] at h
    cases hoffset : other - server.sessions.length with
    | zero =>
      rw [hoffset] at h
      exact Or.inr ⟨by omega, (Option.some.inj h).symm⟩
    | succ offset =>
      rw [hoffset] at h
      cases h

theorem session_lt (h : server.session index = some session) :
    index < server.sessions.length := by
  by_contra hge
  unfold Server.session at h
  rw [List.getElem?_eq_none (Nat.le_of_not_lt hge)] at h
  cases h

theorem mem_lockedByOthers {row : ρ} {other : Nat} (hne : other ≠ index)
    (h : server.session other = some session) (held : row ∈ session.held) :
    row ∈ server.lockedByOthers index := by
  refine List.mem_flatMap.mpr ⟨some session, List.mem_eraseIdx_iff_getElem?.mpr ⟨other, hne, ?_⟩,
    held⟩
  unfold Server.session at h
  cases hplace : server.sessions[other]? with
  | none =>
    rw [hplace] at h
    cases h
  | some place =>
    rw [hplace] at h
    exact congrArg some h

end Server

end

section

variable {σ ρ τ : Type}

/-- What transactions keep to: what each of them relies on, what a commit may do to that, when a
row may be asked for, what is known of a held row, and which transactions may run together. -/
structure Discipline (σ ρ τ : Type) where
  sees : τ → σ → Prop
  grows : σ → σ → Prop
  rule : τ → σ → (ρ → Prop) → ρ → Prop
  kept : τ → (ρ → Prop) → ρ → Prop
  compatible : τ → τ → σ → Prop
  grows_refl : ∀ db, grows db db
  grows_trans : ∀ {first second third}, grows first second → grows second third →
    grows first third
  sees_grows : ∀ {request before after}, grows before after → sees request before →
    sees request after
  rule_grows : ∀ {request before after held row}, grows before after →
    rule request before held row → rule request after held row
  compatible_grows : ∀ {first second before after}, grows before after →
    compatible first second before → compatible first second after
  rule_kept : ∀ {request db held row}, rule request db held row → kept request held row
  kept_mono : ∀ {request row} {held more : ρ → Prop}, (∀ r, held r → more r) →
    kept request held row → kept request more row

variable (d : Discipline σ ρ τ)

/-- From the rows `db` on, the script asks for each row under the rule, whatever part of the
statement's rows it has locked by then, and commits only what is allowed. -/
def Discipline.Follows (request : τ) : (ρ → Prop) → σ → Script σ ρ → Prop
  | _, db, .commit write => d.grows db (write db)
  | held, db, .lock rows next =>
    (∀ row ∈ rows db, ∀ now : ρ → Prop, (∀ r, held r → now r) →
      (∀ r, now r → held r ∨ r ∈ rows db) → ¬ now row → d.rule request db now row) ∧
    ∀ later, d.sees request later → d.grows db later →
      Discipline.Follows request (fun r => held r ∨ r ∈ rows db) later (next (rows db) later)
  | held, db, .skipLocked pick next => ∀ locked,
      (∀ row ∈ pick locked db, d.kept request held row) ∧
      ∀ later, d.sees request later → d.grows db later →
        ∀ now : ρ → Prop, (∀ r, held r → now r) →
          (∀ r, now r → held r ∨ pick locked db = some r) →
            Discipline.Follows request now later (next locked later)

structure Discipline.Obeys (db : σ) (session : Session σ ρ τ) : Prop where
  sees : d.sees session.request db
  kept : ∀ row ∈ session.held, d.kept session.request (· ∈ session.held) row
  fresh : ∀ row ∈ session.pending, row ∉ session.held
  rule : ∀ row ∈ session.pending, ∀ now : ρ → Prop, (∀ r ∈ session.held, now r) →
    (∀ r, now r → r ∈ session.held ∨ r ∈ session.pending) → ¬ now row →
      d.rule session.request db now row
  follows : ∀ later, d.sees session.request later → d.grows db later →
    d.Follows session.request (fun r => r ∈ session.held ∨ r ∈ session.pending) later
      (session.next later)

structure Discipline.Orderly (server : Server σ ρ τ) : Prop where
  obeys : ∀ index session, server.session index = some session → d.Obeys server.db session
  exclusive : ∀ i j a b row, i ≠ j → server.session i = some a → server.session j = some b →
    row ∈ a.held → row ∉ b.held
  compatible : ∀ i j a b, i ≠ j → server.session i = some a → server.session j = some b →
    d.compatible a.request b.request server.db

/-- A transaction starts on rows it can rely on, beside transactions it may run with. -/
def Discipline.Admits : Event ρ τ → Server σ ρ τ → Prop
  | .start request, server => d.sees request server.db ∧
      ∀ index other, server.session index = some other →
        d.compatible request other.request server.db ∧
          d.compatible other.request request server.db
  | _, _ => True

variable {d} {db : σ} {session : Session σ ρ τ} {server : Server σ ρ τ}

theorem Discipline.Obeys.grow {after : σ} (obeys : d.Obeys db session) (h : d.grows db after) :
    d.Obeys after session := by
  obtain ⟨sees, kept, fresh, rule, follows⟩ := obeys
  exact ⟨d.sees_grows h sees, kept, fresh,
    fun row hrow now hheld hnow hfree => d.rule_grows h (rule row hrow now hheld hnow hfree),
    fun later hlater hgrows => follows later hlater (d.grows_trans h hgrows)⟩

theorem Discipline.Obeys.asked (obeys : d.Obeys db session) {row : ρ}
    (h : row ∈ session.pending) : d.rule session.request db (· ∈ session.held) row :=
  obeys.rule row h _ (fun _ hr => hr) (fun _ hr => Or.inl hr) (obeys.fresh row h)

theorem Discipline.Orderly.drop (orderly : d.Orderly server) (index : Nat) :
    d.Orderly (server.put index none) := by
  have other {i : Nat} {a : Session σ ρ τ} (h : (server.put index none).session i = some a) :
      server.session i = some a := by
    by_cases hsame : index = i
    · subst hsame
      unfold Server.session Server.put at h
      dsimp only at h
      rcases Nat.lt_or_ge index server.sessions.length with hlt | hge
      · rw [List.getElem?_set_self hlt] at h
        cases h
      · rw [List.getElem?_eq_none (by rw [List.length_set]; exact hge)] at h
        cases h
    · rwa [Server.session_put_ne hsame] at h
  exact ⟨fun i a h => orderly.obeys i a (other h),
    fun i j a b row hne ha hb => orderly.exclusive i j a b row hne (other ha) (other hb),
    fun i j a b hne ha hb => orderly.compatible i j a b hne (other ha) (other hb)⟩

theorem Discipline.Orderly.replace {index : Nat} {renewed : Session σ ρ τ}
    (orderly : d.Orderly server) (h : server.session index = some session)
    (same : renewed.request = session.request) (obeys : d.Obeys server.db renewed)
    (free : ∀ row ∈ renewed.held, row ∈ session.held ∨
      ∀ other a, other ≠ index → server.session other = some a → row ∉ a.held) :
    d.Orderly (server.put index (some renewed)) := by
  have found {i : Nat} {a : Session σ ρ τ}
      (ha : (server.put index (some renewed)).session i = some a) :
      (i = index ∧ a = renewed) ∨ (i ≠ index ∧ server.session i = some a) := by
    by_cases hsame : i = index
    · subst hsame
      rw [Server.session_put_self h] at ha
      exact Or.inl ⟨rfl, (Option.some.inj ha).symm⟩
    · rw [Server.session_put_ne (Ne.symm hsame)] at ha
      exact Or.inr ⟨hsame, ha⟩
  refine ⟨fun i a ha => ?_, fun i j a b row hne ha hb hrow => ?_, fun i j a b hne ha hb => ?_⟩
  · rcases found ha with ⟨rfl, rfl⟩ | ⟨-, hold⟩
    · exact obeys
    · exact orderly.obeys i a hold
  · rcases found ha with ⟨hi, rfl⟩ | ⟨hi, holdi⟩ <;> rcases found hb with ⟨hj, rfl⟩ | ⟨hj, holdj⟩
    · exact absurd (hi.trans hj.symm) hne
    · rcases free row hrow with hheld | hfree
      · exact orderly.exclusive _ _ _ _ row (Ne.symm hj) h holdj hheld
      · exact hfree j b hj holdj
    · intro hnew
      rcases free row hnew with hheld | hfree
      · exact orderly.exclusive _ _ _ _ row hi holdi h hrow hheld
      · exact hfree i a hi holdi hrow
    · exact orderly.exclusive _ _ _ _ row hne holdi holdj hrow
  · rcases found ha with ⟨hi, rfl⟩ | ⟨hi, holdi⟩ <;> rcases found hb with ⟨hj, rfl⟩ | ⟨hj, holdj⟩
    · exact absurd (hi.trans hj.symm) hne
    · rw [same]
      exact orderly.compatible _ _ _ _ (Ne.symm hj) h holdj
    · rw [same]
      exact orderly.compatible _ _ _ _ hi holdi h
    · exact orderly.compatible _ _ _ _ hne holdi holdj

theorem Discipline.follows_lockEach {request : τ} {last : Script σ ρ}
    {statements : List (σ → List ρ)} {held : ρ → Prop} (sees : d.sees request db)
    (allowed : ∀ rows ∈ statements, ∀ later, d.sees request later → d.grows db later →
      ∀ row ∈ rows later, held row ∨
        ∀ now : ρ → Prop, (∀ r, held r → now r) → d.rule request later now row)
    (ends : ∀ later, d.sees request later → d.grows db later → ∀ now : ρ → Prop,
      (∀ r, held r → now r) → d.Follows request now later last) :
    d.Follows request held db (.lockEach statements last) := by
  induction statements generalizing held db with
  | nil => exact ends db sees (d.grows_refl db) held fun _ h => h
  | cons rows others ih =>
    refine ⟨fun row hrow now hheld _ hfree => ?_, fun later hlater hgrows => ih hlater ?_ ?_⟩
    · rcases allowed rows List.mem_cons_self db sees (d.grows_refl db) row hrow with hrow | hrule
      · exact absurd (hheld row hrow) hfree
      · exact hrule now hheld
    · intro others hothers last hlast hmore row hrow
      rcases allowed others (List.mem_cons_of_mem _ hothers) last hlast
        (d.grows_trans hgrows hmore) row hrow with hrow | hrule
      · exact Or.inl (Or.inl hrow)
      · exact Or.inr fun now hheld => hrule now fun r hr => hheld r (Or.inl hr)
    · exact fun last hlast hmore now hheld => ends last hlast (d.grows_trans hgrows hmore) now
        fun r hr => hheld r (Or.inl hr)

end

section

variable {σ ρ τ : Type} {d : Discipline σ ρ τ} {script : τ → σ → Script σ ρ}
  {server next : Server σ ρ τ} {index : Nat} {session : Session σ ρ τ}

theorem Discipline.orderly_idle {db : σ} : d.Orderly (Server.idle db) := by
  have hnone {i : Nat} {a : Session σ ρ τ} (h : (Server.idle db).session i = some a) : False := by
    have hlt := Server.session_lt h
    exact Nat.not_lt_zero i hlt
  exact ⟨fun _ _ h => (hnone h).elim, fun _ _ _ _ _ _ h => (hnone h).elim,
    fun _ _ _ _ _ h => (hnone h).elim⟩

theorem Discipline.Orderly.start {request : τ} (orderly : d.Orderly server)
    (follows : ∀ db, d.sees request db →
      d.Follows request (fun _ => False) db (script request db))
    (admits : d.Admits (.start request) server) :
    d.Orderly { server with
      sessions := server.sessions ++ [some ⟨request, [], [], script request⟩] } := by
  obtain ⟨sees, hcompatible⟩ := admits
  have hnone : (fun r : ρ => r ∈ ([] : List ρ) ∨ r ∈ ([] : List ρ)) = fun _ => False := by
    simp only [List.not_mem_nil, or_self]
  refine ⟨fun i a ha => ?_, fun i j a b row hne ha hb hrow => ?_, fun i j a b hne ha hb => ?_⟩
  · rcases Server.session_start ha with hold | ⟨-, rfl⟩
    · exact orderly.obeys i a hold
    · refine ⟨sees, nofun, nofun, nofun, fun later hlater _ => ?_⟩
      rw [hnone]
      exact follows later hlater
  · rcases Server.session_start ha with holdi | ⟨-, rfl⟩
    · rcases Server.session_start hb with holdj | ⟨-, rfl⟩
      · exact orderly.exclusive i j a b row hne holdi holdj hrow
      · exact List.not_mem_nil
    · cases hrow
  · rcases Server.session_start ha with holdi | ⟨hi, rfl⟩ <;>
      rcases Server.session_start hb with holdj | ⟨hj, rfl⟩
    · exact orderly.compatible i j a b hne holdi holdj
    · exact (hcompatible i a holdi).2
    · exact (hcompatible j b holdj).1
    · exact absurd (hi.trans hj.symm) hne

variable [DecidableEq ρ]

theorem Discipline.Orderly.acquire {row : ρ} (orderly : d.Orderly server)
    (h : server.session index = some session) (asked : row ∈ session.pending)
    (free : row ∉ server.lockedByOthers index) :
    d.Orderly (server.put index (some { session with
      held := row :: session.held
      pending := session.pending.filter (· ≠ row) })) := by
  obtain ⟨sees, kept, fresh, rule, follows⟩ := orderly.obeys index session h
  have hrule := (orderly.obeys index session h).asked asked
  have hsame (r : ρ) : (r ∈ row :: session.held ∨ r ∈ session.pending.filter (· ≠ row)) ↔
      (r ∈ session.held ∨ r ∈ session.pending) := by
    rw [List.mem_cons, List.mem_filter, decide_eq_true_iff]
    by_cases hr : r = row
    · subst hr
      exact ⟨fun _ => Or.inr asked, fun _ => Or.inl (Or.inl rfl)⟩
    · simp only [hr, false_or, ne_eq, not_false_eq_true, and_true]
  have hmore : ∀ r ∈ session.held, r ∈ row :: session.held := fun _ => List.mem_cons_of_mem _
  refine orderly.replace h rfl ⟨sees, ?_, ?_, ?_, ?_⟩ ?_
  · intro r hr
    rcases List.mem_cons.mp hr with rfl | hr
    · exact d.kept_mono hmore (d.rule_kept hrule)
    · exact d.kept_mono hmore (kept r hr)
  · intro r hr hheld
    obtain ⟨hr, hne⟩ := List.mem_filter.mp hr
    rcases List.mem_cons.mp hheld with rfl | hheld
    · exact of_decide_eq_true hne rfl
    · exact fresh r hr hheld
  · intro r hr now hheld hnow hfree
    exact rule r (List.mem_filter.mp hr).1 now (fun other hother => hheld other (hmore other hother))
      (fun other hother => (hsame other).mp (hnow other hother)) hfree
  · intro later hlater hgrows
    have hfollows := follows later hlater hgrows
    rwa [← funext fun r => propext (hsame r)] at hfollows
  · intro r hr
    rcases List.mem_cons.mp hr with rfl | hr
    · exact Or.inr fun other a hother ha hmem =>
        free (Server.mem_lockedByOthers hother ha hmem)
    · exact Or.inl hr

theorem Discipline.Orderly.advance (orderly : d.Orderly server)
    (h : server.session index = some session) (locked : session.pending = []) :
    d.Orderly (server.advance index session) := by
  have obeys := orderly.obeys index session h
  have hfollows := obeys.follows server.db obeys.sees (d.grows_refl server.db)
  have hheld : (fun r => r ∈ session.held ∨ r ∈ session.pending) = (· ∈ session.held) := by
    rw [locked]
    simp only [List.not_mem_nil, or_false]
  rw [hheld] at hfollows
  unfold Server.advance
  cases hnext : session.next server.db with
  | commit write =>
    rw [hnext] at hfollows
    have hgrows : d.grows server.db (write server.db) := hfollows
    have hdrop := orderly.drop index
    exact ⟨fun i a ha => (hdrop.obeys i a ha).grow hgrows, hdrop.exclusive,
      fun i j a b hne ha hb => d.compatible_grows hgrows (hdrop.compatible i j a b hne ha hb)⟩
  | lock rows next =>
    rw [hnext] at hfollows
    obtain ⟨hrule, hrest⟩ := hfollows
    have hsame (r : ρ) : (r ∈ session.held ∨
        r ∈ (rows server.db).filter (· ∉ session.held)) ↔
          (r ∈ session.held ∨ r ∈ rows server.db) := by
      rw [List.mem_filter, decide_eq_true_iff]
      by_cases hr : r ∈ session.held <;> simp only [hr, true_or, false_or, not_true_eq_false,
        not_false_eq_true, and_true]
    refine orderly.replace h rfl ⟨obeys.sees, obeys.kept, ?_, ?_, ?_⟩ fun r hr => Or.inl hr
    · intro r hr
      exact of_decide_eq_true (List.mem_filter.mp hr).2
    · intro r hr now hheld hnow hfree
      exact hrule r (List.mem_filter.mp hr).1 now hheld
        (fun other hother => (hsame other).mp (hnow other hother)) hfree
    · intro later hlater hgrows
      dsimp only
      rw [funext fun r => propext (hsame r)]
      exact hrest later hlater hgrows
  | skipLocked pick next =>
    rw [hnext] at hfollows
    obtain ⟨hkept, hrest⟩ := hfollows (server.lockedByOthers index)
    have hpick {r : ρ} (hr : r ∈ ((pick (server.lockedByOthers index) server.db).filter
        (· ∉ server.lockedByOthers index)).toList) :
        pick (server.lockedByOthers index) server.db = some r ∧
          r ∉ server.lockedByOthers index := by
      obtain ⟨hpicked, hfree⟩ := Option.filter_eq_some_iff.mp (Option.mem_toList.mp hr)
      exact ⟨hpicked, of_decide_eq_true hfree⟩
    have hmore : ∀ r ∈ session.held, r ∈ ((pick (server.lockedByOthers index)
        server.db).filter (· ∉ server.lockedByOthers index)).toList ++ session.held :=
      fun _ => List.mem_append_right _
    refine orderly.replace h rfl ⟨obeys.sees, ?_, ?_, ?_, ?_⟩ ?_
    · intro r hr
      rcases List.mem_append.mp hr with hr | hr
      · exact d.kept_mono hmore (hkept r (hpick hr).1)
      · exact d.kept_mono hmore (obeys.kept r hr)
    · dsimp only
      rw [locked]
      exact nofun
    · dsimp only
      rw [locked]
      exact nofun
    · intro later hlater hgrows
      refine hrest later hlater hgrows _ (fun r hr => Or.inl (hmore r hr)) fun r hr => ?_
      dsimp only at hr
      rw [locked] at hr
      rcases hr with hr | hr
      · rcases List.mem_append.mp hr with hr | hr
        · exact Or.inr (hpick hr).1
        · exact Or.inl hr
      · cases hr
    · intro r hr
      rcases List.mem_append.mp hr with hr | hr
      · exact Or.inr fun other a hother ha hmem =>
          (hpick hr).2 (Server.mem_lockedByOthers hother ha hmem)
      · exact Or.inl hr

theorem Discipline.Orderly.run {events : List (Event ρ τ)} (orderly : d.Orderly server)
    (follows : ∀ request db, d.sees request db →
      d.Follows request (fun _ => False) db (script request db))
    (guarded : Guarded (Server.take script) d.Admits events server)
    (h : run (Server.take script) events server = some next) : d.Orderly next := by
  refine invariant_of_run ?_ orderly guarded h
  intro event server next orderly admits h
  cases event with
  | start request =>
    cases h
    exact orderly.start (follows request) admits
  | acquire index row =>
    obtain ⟨session, hsession, h⟩ := Option.bind_eq_some_iff.mp h
    split at h
    · next hrow =>
        cases h
        exact orderly.acquire hsession hrow.1 hrow.2
    · cases h
  | advance index =>
    obtain ⟨session, hsession, h⟩ := Option.bind_eq_some_iff.mp h
    split at h
    · next hlocked =>
        cases h
        exact orderly.advance hsession hlocked
    · cases h
  | abort index =>
    obtain ⟨session, hsession, h⟩ := Option.bind_eq_some_iff.mp h
    cases h
    exact orderly.drop index

end

section

variable {σ ρ τ : Type} {server : Server σ ρ τ}

theorem not_deadlocked_of_rising (level : Nat → ρ → Nat)
    (rises : ∀ i j k row other, server.WaitsOn i row j → server.WaitsOn j other k →
      level i row < level j other) : ¬ server.Deadlocked := by
  -- along a path the level of the last wait is at least that of the first
  have path {i j : Nat} (h : Relation.TransGen server.Waits i j) :
      ∃ first next previous row, server.WaitsOn i first next ∧ server.WaitsOn previous row j ∧
        level i first ≤ level previous row := by
    induction h with
    | single h =>
      obtain ⟨row, h⟩ := h
      exact ⟨row, _, _, row, h, h, Nat.le_refl _⟩
    | tail _ h ih =>
      obtain ⟨first, next, previous, row, hfirst, hlast, hle⟩ := ih
      obtain ⟨other, h⟩ := h
      exact ⟨first, next, _, other, hfirst, h, Nat.le_of_lt
        (Nat.lt_of_le_of_lt hle (rises _ _ _ _ _ hlast h))⟩
  rintro ⟨i, h⟩
  obtain ⟨first, next, previous, row, hfirst, hlast, hle⟩ := path h
  exact Nat.lt_irrefl _ (Nat.lt_of_lt_of_le (rises _ _ _ _ _ hlast hfirst) hle)

end

end JbChat.Foundation.RowLocks
