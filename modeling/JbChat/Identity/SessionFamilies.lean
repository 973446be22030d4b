/- source: src/production/identity/enrollmentStore.ts, src/production/http/messagingHttp.ts
   digest: A token family has one active session at most, and none once it is revoked. -/

import JbChat.Foundation.GenerationChain
import JbChat.Identity.SessionStore

set_option autoImplicit false

namespace JbChat.Identity.SessionFamilies

open Foundation.Transaction
open Foundation.GenerationChain SessionStore

section

variable {now : Int}

def isActive (row : SessionRow) : Prop := row.state = .active

instance : DecidablePred isActive := fun row => inferInstanceAs (Decidable (row.state = .active))

abbrev FamilyChain (rows : List SessionRow) (tokenFamilyId : String) : Prop :=
  Chain SessionRow.refreshGeneration isActive (family tokenFamilyId rows)

variable {rows : List SessionRow} {tokenFamilyId : String} {row : SessionRow}

theorem mem_family : row ∈ family tokenFamilyId rows ↔
    row ∈ rows ∧ row.tokenFamilyId = tokenFamilyId := by
  unfold family
  rw [List.mem_filter, decide_eq_true_eq]

theorem family_append (other : SessionRow) :
    family tokenFamilyId (rows ++ [other]) = family tokenFamilyId rows ++
      (if other.tokenFamilyId = tokenFamilyId then [other] else []) := by
  unfold family
  rw [List.filter_append]
  by_cases same : other.tokenFamilyId = tokenFamilyId
  · simp [same]
  · simp [same]

theorem family_map (change : SessionRow → SessionRow)
    (keeps : ∀ row, (change row).tokenFamilyId = row.tokenFamilyId) :
    family tokenFamilyId (rows.map change) = (family tokenFamilyId rows).map change := by
  unfold family
  rw [List.filter_map]
  congr 1
  apply List.filter_congr
  intro row _
  simp only [Function.comp, keeps]

@[simp] theorem rotateSession_family (sessionId : String) (now : Int) :
    (rotateSession sessionId now row).tokenFamilyId = row.tokenFamilyId := by
  unfold rotateSession
  split <;> rfl

@[simp] theorem rotateSession_generation (sessionId : String) (now : Int) :
    (rotateSession sessionId now row).refreshGeneration = row.refreshGeneration := by
  unfold rotateSession
  split <;> rfl

@[simp] theorem revokeSessions_family (sessionIds : List String) (reason : String) (now : Int) :
    (revokeSessions sessionIds reason now row).tokenFamilyId = row.tokenFamilyId := by
  unfold revokeSessions
  split <;> rfl

@[simp] theorem revokeSessions_generation (sessionIds : List String) (reason : String) (now : Int) :
    (revokeSessions sessionIds reason now row).refreshGeneration = row.refreshGeneration := by
  unfold revokeSessions
  split <;> rfl

theorem rotateSession_active {sessionId : String} (h : isActive (rotateSession sessionId now row)) :
    isActive row ∧ row.sessionId ≠ sessionId := by
  unfold rotateSession at h
  split at h
  · cases h
  · rename_i differs
    exact ⟨h, differs⟩

theorem revokeSessions_active {sessionIds : List String} {reason : String}
    (h : isActive (revokeSessions sessionIds reason now row)) :
    isActive row ∧ row.sessionId ∉ sessionIds := by
  unfold revokeSessions at h
  split at h
  · cases h
  · rename_i differs
    exact ⟨h, differs⟩

theorem FamilyChain.issue (chains : ∀ id, FamilyChain rows id) (first : row.refreshGeneration = 0)
    (fresh : ∀ other ∈ rows, other.tokenFamilyId ≠ row.tokenFamilyId) (tokenFamilyId : String) :
    FamilyChain (rows ++ [row]) tokenFamilyId := by
  unfold FamilyChain
  rw [family_append]
  by_cases same : row.tokenFamilyId = tokenFamilyId
  · rw [if_pos same]
    have empty : family tokenFamilyId rows = [] := by
      rw [List.eq_nil_iff_forall_not_mem]
      intro other hother
      obtain ⟨hmember, hfamily⟩ := mem_family.mp hother
      exact fresh other hmember (hfamily.trans same.symm)
    rw [empty]
    exact Chain.nil.append (fun other hother => absurd hother List.not_mem_nil) first
  · rw [if_neg same, List.append_nil]
    exact chains tokenFamilyId

theorem FamilyChain.rotate (chains : ∀ id, FamilyChain rows id) {successor : SessionRow}
    (hrow : row ∈ rows) (active : isActive row)
    (next : successor.refreshGeneration = row.refreshGeneration + 1)
    (sameFamily : successor.tokenFamilyId = row.tokenFamilyId) (tokenFamilyId : String) :
    FamilyChain (rows.map (rotateSession row.sessionId now) ++ [successor]) tokenFamilyId := by
  unfold FamilyChain
  rw [family_append, family_map _ fun other => rotateSession_family row.sessionId now]
  have retired := (chains tokenFamilyId).map (rotateSession row.sessionId now)
    (fun other _ => rotateSession_generation row.sessionId now)
    (fun other _ hactive => (rotateSession_active hactive).1)
  by_cases same : successor.tokenFamilyId = tokenFamilyId
  · rw [if_pos same]
    have member : row ∈ family tokenFamilyId rows :=
      mem_family.mpr ⟨hrow, sameFamily.symm.trans same⟩
    apply retired.append
    · intro changed hchanged hactive
      obtain ⟨other, hother, rfl⟩ := List.mem_map.mp hchanged
      obtain ⟨hotherActive, differs⟩ := rotateSession_active hactive
      have only := (chains tokenFamilyId).eq_of_live hother member hotherActive active
      exact differs (congrArg SessionRow.sessionId only)
    · rw [next, List.length_map]
      exact (chains tokenFamilyId).newest row member active
  · rw [if_neg same, List.append_nil]
    exact retired

theorem FamilyChain.revoke (chains : ∀ id, FamilyChain rows id) (sessionIds : List String)
    (reason : String) (now : Int) (tokenFamilyId : String) :
    FamilyChain (rows.map (revokeSessions sessionIds reason now)) tokenFamilyId := by
  unfold FamilyChain
  rw [family_map _ fun other => revokeSessions_family sessionIds reason now]
  exact (chains tokenFamilyId).map _ (fun other _ => revokeSessions_generation sessionIds reason now)
    (fun other _ hactive => (revokeSessions_active hactive).1)

end

section

variable {process : Process} {change : List SessionRow → List SessionRow}

/-- What is true of a request where it stands. -/
def Sound (sessions : List SessionRow) (locks : String → Option Nat) (pid : Nat) : Process → Prop
  | .idle => True
  | .waiting _ _ _ => True
  | .authenticated tokenFamilyId => ∃ row ∈ sessions, row.tokenFamilyId = tokenFamilyId
  | .issuing row => row.refreshGeneration = 0 ∧
      ∀ other ∈ sessions, other.tokenFamilyId ≠ row.tokenFamilyId
  | .holding row _ _ => row ∈ sessions ∧ locks row.sessionId = some pid
  | .rotating row _ _ => (row ∈ sessions ∧ locks row.sessionId = some pid) ∧ isActive row
  | .rotated row successor _ => ((row ∈ sessions ∧ locks row.sessionId = some pid) ∧ isActive row) ∧
      successor.refreshGeneration = row.refreshGeneration + 1 ∧
      successor.tokenFamilyId = row.tokenFamilyId
  | .revoking update => (∃ row ∈ sessions, row.tokenFamilyId = update.tokenFamilyId) ∧
      ∀ sessionId ∈ update.done, locks sessionId = some pid

structure Inv (sys : Sys) : Prop where
  chains : ∀ tokenFamilyId, FamilyChain sys.sessions tokenFamilyId
  known : ∀ row ∈ sys.sessions, row.tokenFamilyId ∈ sys.drawn
  sound : ∀ pid, Sound sys.sessions sys.locks pid (sys.processes pid)
  issued : ∀ pid row, sys.processes pid = .issuing row → row.tokenFamilyId ∈ sys.drawn
  apart : ∀ pid other row otherRow, sys.processes pid = .issuing row →
    sys.processes other = .issuing otherRow → row.tokenFamilyId = otherRow.tokenFamilyId →
    pid = other

theorem Inv.start : Inv Sys.start where
  chains _ := Chain.nil
  known _ hrow := absurd hrow List.not_mem_nil
  sound _ := trivial
  issued _ _ h := by cases h
  apart _ _ _ _ h := by cases h

variable {sys : Sys} {pid other : Nat}

theorem Sound.transfer {sessions written : List SessionRow} {locks after : String → Option Nat}
    (h : Sound sessions locks pid process)
    (rows : ∀ row ∈ sessions, locks row.sessionId = some pid → row ∈ written)
    (held : ∀ sessionId, locks sessionId = some pid → after sessionId = some pid)
    (families : ∀ row ∈ sessions, ∃ kept ∈ written, kept.tokenFamilyId = row.tokenFamilyId)
    (fresh : ∀ row, process = .issuing row →
      ∀ kept ∈ written, kept.tokenFamilyId ≠ row.tokenFamilyId) :
    Sound written after pid process := by
  have persists : ∀ tokenFamilyId, (∃ row ∈ sessions, row.tokenFamilyId = tokenFamilyId) →
      ∃ row ∈ written, row.tokenFamilyId = tokenFamilyId := by
    rintro tokenFamilyId ⟨row, hrow, rfl⟩
    exact families row hrow
  cases process with
  | idle => trivial
  | waiting sessionId credential now => trivial
  | authenticated tokenFamilyId => exact persists tokenFamilyId h
  | issuing row => exact ⟨h.1, fresh row rfl⟩
  | holding row credential now => exact ⟨rows row h.1 h.2, held _ h.2⟩
  | rotating row credential now => exact ⟨⟨rows row h.1.1 h.1.2, held _ h.1.2⟩, h.2⟩
  | rotated row successor now =>
    exact ⟨⟨⟨rows row h.1.1.1 h.1.1.2, held _ h.1.1.2⟩, h.1.2⟩, h.2⟩
  | revoking update => exact ⟨persists _ h.1, fun sessionId hdone => held _ (h.2 sessionId hdone)⟩

@[simp] theorem put_processes_self (process : Process) :
    (sys.put pid process).processes pid = process := Function.update_self ..

theorem put_processes_of_ne (process : Process) (distinct : other ≠ pid) :
    (sys.put pid process).processes other = sys.processes other :=
  Function.update_of_ne distinct ..

theorem Inv.put (inv : Inv sys) (values : List String)
    (sound : Sound sys.sessions sys.locks pid process) (draws : ∀ row, process = .issuing row →
      row.tokenFamilyId ∈ values ∧ row.tokenFamilyId ∉ sys.drawn) :
    Inv ((sys.put pid process).draw values) where
  chains := inv.chains
  known row hrow := List.mem_append_right _ (inv.known row hrow)
  sound p := by
    by_cases self : p = pid
    · subst self
      exact (put_processes_self process).symm ▸ sound
    · exact (put_processes_of_ne process self).symm ▸ inv.sound p
  issued p row h := by
    by_cases self : p = pid
    · subst self
      exact List.mem_append_left _ (draws row ((put_processes_self process).symm.trans h)).1
    · exact List.mem_append_right _ (inv.issued p row ((put_processes_of_ne process self).symm.trans h))
  apart p q row otherRow hp hq same := by
    by_cases pself : p = pid
    · by_cases qself : q = pid
      · exact pself.trans qself.symm
      · subst pself
        have earlier := inv.issued q otherRow ((put_processes_of_ne process qself).symm.trans hq)
        exact absurd (same ▸ earlier) (draws row ((put_processes_self process).symm.trans hp)).2
    · by_cases qself : q = pid
      · subst qself
        have earlier := inv.issued p row ((put_processes_of_ne process pself).symm.trans hp)
        exact absurd (same ▸ earlier)
          (draws otherRow ((put_processes_self process).symm.trans hq)).2
      · exact inv.apart p q row otherRow ((put_processes_of_ne process pself).symm.trans hp)
          ((put_processes_of_ne process qself).symm.trans hq) same

theorem Inv.take (inv : Inv sys) {sessionId : String} (free : sys.free pid sessionId = true)
    (sound : Sound sys.sessions (Function.update sys.locks sessionId (some pid)) pid process)
    (committed : ∀ row, process ≠ .issuing row) : Inv (sys.take pid sessionId process) where
  chains := inv.chains
  known := inv.known
  sound p := by
    by_cases self : p = pid
    · subst self
      simpa only [Sys.take, Function.update_self] using sound
    · have keeps : Sound sys.sessions (Function.update sys.locks sessionId (some pid)) p
          (sys.processes p) := by
        apply (inv.sound p).transfer (fun row hrow _ => hrow)
        · intro locked hlocked
          rw [Function.update_of_ne]
          · exact hlocked
          · rintro rfl
            rcases of_decide_eq_true free with hnone | hpid
            · rw [hnone] at hlocked
              cases hlocked
            · rw [hpid] at hlocked
              exact self (Option.some.inj hlocked).symm
        · exact fun row hrow => ⟨row, hrow, rfl⟩
        · intro row hprocess
          have hsound := inv.sound p
          rw [hprocess] at hsound
          exact hsound.2
      simpa only [Sys.take, Function.update_of_ne self] using keeps
  issued p row h := by
    by_cases self : p = pid
    · subst self
      exact absurd ((Function.update_self ..).symm.trans h) (committed row)
    · exact inv.issued p row ((Function.update_of_ne self ..).symm.trans h)
  apart p q row otherRow hp hq same := by
    by_cases pself : p = pid
    · subst pself
      exact absurd ((Function.update_self ..).symm.trans hp) (committed row)
    · by_cases qself : q = pid
      · subst qself
        exact absurd ((Function.update_self ..).symm.trans hq) (committed otherRow)
      · exact inv.apart p q row otherRow ((Function.update_of_ne pself ..).symm.trans hp)
          ((Function.update_of_ne qself ..).symm.trans hq) same

theorem Inv.finish (inv : Inv sys)
    (chains : ∀ tokenFamilyId, FamilyChain (change sys.sessions) tokenFamilyId)
    (known : ∀ row ∈ change sys.sessions, row.tokenFamilyId ∈ sys.drawn)
    (rows : ∀ row ∈ sys.sessions, sys.locks row.sessionId ≠ some pid → row ∈ change sys.sessions)
    (families : ∀ row ∈ sys.sessions,
      ∃ kept ∈ change sys.sessions, kept.tokenFamilyId = row.tokenFamilyId)
    (fresh : ∀ other row, other ≠ pid → sys.processes other = .issuing row →
      ∀ kept ∈ change sys.sessions, kept.tokenFamilyId ≠ row.tokenFamilyId) :
    Inv (sys.finish pid change) where
  chains := chains
  known := known
  sound p := by
    by_cases self : p = pid
    · subst self
      simp only [Sys.finish, Function.update_self]
      trivial
    · simp only [Sys.finish, Function.update_of_ne self]
      apply (inv.sound p).transfer
      · intro row hrow hlocked
        apply rows row hrow
        rw [hlocked]
        exact fun h => self (Option.some.inj h)
      · intro sessionId hlocked
        rw [hlocked, if_neg fun h => self (Option.some.inj h)]
      · exact families
      · exact fun row hprocess => fresh p row self hprocess
  issued p row h := by
    by_cases self : p = pid
    · subst self
      cases (Function.update_self ..).symm.trans h
    · exact inv.issued p row ((Function.update_of_ne self ..).symm.trans h)
  apart p q row otherRow hp hq same := by
    by_cases pself : p = pid
    · subst pself
      cases (Function.update_self ..).symm.trans hp
    · by_cases qself : q = pid
      · subst qself
        cases (Function.update_self ..).symm.trans hq
      · exact inv.apart p q row otherRow ((Function.update_of_ne pself ..).symm.trans hp)
          ((Function.update_of_ne qself ..).symm.trans hq) same

/-- A family that a row of the table belongs to. -/
def Exists (sys : Sys) (tokenFamilyId : String) : Prop :=
  ∃ row ∈ sys.sessions, row.tokenFamilyId = tokenFamilyId

theorem startUpdate_sound {tokenFamilyId reason : String} {now : Int}
    (present : Exists sys tokenFamilyId) : Sound sys.sessions sys.locks pid
      (.revoking (sys.startUpdate tokenFamilyId reason now)) :=
  ⟨present, fun _ hdone => absurd hdone List.not_mem_nil⟩

/-- The table after the end of each kind of transaction. -/
theorem Inv.commit (inv : Inv sys)
    (h : committedChange (sys.processes pid) = some change) : Inv (sys.finish pid change) := by
  have sound := inv.sound pid
  have issuedApart := fun other row (distinct : other ≠ pid)
      (hother : sys.processes other = .issuing row) => (hother ▸ inv.sound other :
    Sound sys.sessions sys.locks other (.issuing row)).2
  cases hprocess : sys.processes pid with
  | idle | waiting sessionId credential now | authenticated tokenFamilyId
  | rotating row credential now => simp [hprocess, committedChange] at h
  | issuing row =>
    rw [hprocess] at h sound
    cases h
    apply inv.finish
    · exact FamilyChain.issue inv.chains sound.1 sound.2
    · intro member hmember
      rcases List.mem_append.mp hmember with hold | hnew
      · exact inv.known member hold
      · rw [List.mem_singleton.mp hnew]
        exact inv.issued pid row hprocess
    · exact fun member hmember _ => List.mem_append_left _ hmember
    · exact fun member hmember => ⟨member, List.mem_append_left _ hmember, rfl⟩
    · intro other otherRow distinct hother member hmember
      rcases List.mem_append.mp hmember with hold | hnew
      · exact issuedApart other otherRow distinct hother member hold
      · rw [List.mem_singleton.mp hnew]
        exact fun same => distinct (inv.apart pid other row otherRow hprocess hother same).symm
  | holding row credential now =>
    rw [hprocess] at h
    simp only [committedChange] at h
    split at h
    · cases h
    · cases h
      exact inv.finish inv.chains inv.known (fun _ hmember _ => hmember)
        (fun member hmember => ⟨member, hmember, rfl⟩) issuedApart
  | rotated row successor now =>
    rw [hprocess] at h sound
    cases h
    obtain ⟨⟨⟨hrow, hlock⟩, active⟩, next, sameFamily⟩ := sound
    have changed : ∀ member ∈ sys.sessions.map (rotateSession row.sessionId now) ++ [successor],
        ∃ before ∈ sys.sessions, before.tokenFamilyId = member.tokenFamilyId := by
      intro member hmember
      rcases List.mem_append.mp hmember with hold | hnew
      · obtain ⟨before, hbefore, rfl⟩ := List.mem_map.mp hold
        exact ⟨before, hbefore, (rotateSession_family row.sessionId now).symm⟩
      · rw [List.mem_singleton.mp hnew]
        exact ⟨row, hrow, sameFamily.symm⟩
    apply inv.finish
    · exact FamilyChain.rotate inv.chains hrow active next sameFamily
    · intro member hmember
      obtain ⟨before, hbefore, hfamily⟩ := changed member hmember
      exact hfamily ▸ inv.known before hbefore
    · intro member hmember unlocked
      have differs : member.sessionId ≠ row.sessionId := fun same => unlocked (same ▸ hlock)
      refine List.mem_append_left _ (List.mem_map.mpr ⟨member, hmember, ?_⟩)
      exact if_neg differs
    · intro member hmember
      exact ⟨_, List.mem_append_left _ (List.mem_map_of_mem hmember),
        rotateSession_family row.sessionId now⟩
    · intro other otherRow distinct hother member hmember
      obtain ⟨before, hbefore, hfamily⟩ := changed member hmember
      exact hfamily ▸ issuedApart other otherRow distinct hother before hbefore
  | revoking update =>
    rw [hprocess] at h sound
    simp only [committedChange] at h
    split at h
    · cases h
      apply inv.finish
      · exact FamilyChain.revoke inv.chains update.done update.reason update.now
      · intro member hmember
        obtain ⟨before, hbefore, rfl⟩ := List.mem_map.mp hmember
        rw [revokeSessions_family]
        exact inv.known before hbefore
      · intro member hmember unlocked
        refine List.mem_map.mpr ⟨member, hmember, if_neg ?_⟩
        exact fun hdone => unlocked (sound.2 _ hdone)
      · intro member hmember
        exact ⟨_, List.mem_map_of_mem hmember, revokeSessions_family ..⟩
      · intro other otherRow distinct hother member hmember
        obtain ⟨before, hbefore, rfl⟩ := List.mem_map.mp hmember
        rw [revokeSessions_family]
        exact issuedApart other otherRow distinct hother before hbefore
    · cases h

theorem exists_of_onlyRow {selected : SessionRow → Bool} {row : SessionRow}
    (h : onlyRow (sys.sessions.filter selected) = some row) : Exists sys row.tokenFamilyId := by
  have hmember : row ∈ sys.sessions.filter selected := by
    rw [onlyRow_eq_some.mp h]
    exact List.mem_singleton_self row
  exact ⟨row, (List.mem_filter.mp hmember).1, rfl⟩

/-- Every statement keeps the invariant. -/
theorem Inv.step (inv : Inv sys) {action : Action} {written : Sys}
    (h : step sys pid action = some written) : Inv written := by
  have sound := inv.sound pid
  have plain : ∀ {process : Process}, Sound sys.sessions sys.locks pid process →
      (∀ row, process ≠ .issuing row) → Inv ((sys.put pid process).draw []) :=
    fun hsound committed => inv.put [] hsound (fun row hrow => absurd hrow (committed row))
  unfold SessionStore.step at h
  split at h
  · rename_i request credential tokenFamilyId values now hprocess
    split at h
    · rename_i guard
      cases h
      apply inv.put
      · refine ⟨rfl, fun other hother same => guard.2.1 ?_⟩
        have seen := inv.known other hother
        rw [same] at seen
        exact seen
      · intro row hrow
        obtain rfl := Process.issuing.inj hrow
        exact ⟨List.mem_cons_self, guard.2.1⟩
    · cases h
  · obtain ⟨row, hrow, rfl⟩ := Option.map_eq_some_iff.mp h
    exact plain trivial (fun _ hissue => by cases hissue)
  · rename_i sessionId credential now hprocess
    split at h
    · rename_i free
      obtain ⟨row, hrow, rfl⟩ := Option.map_eq_some_iff.mp h
      have hselected := List.find?_some hrow
      have hid : row.sessionId = sessionId := of_decide_eq_true hselected
      apply inv.take free
      · exact ⟨List.mem_of_find?_eq_some hrow, by rw [hid, Function.update_self]⟩
      · exact fun _ hissue => by cases hissue
    · cases h
  · rename_i row credential now hprocess
    rw [hprocess] at sound
    split at h
    · cases h
      exact plain (startUpdate_sound ⟨row, sound.1, rfl⟩) (fun _ hissue => by cases hissue)
    · cases h
  · rename_i row credential now hprocess
    rw [hprocess] at sound
    split at h
    · rename_i usable
      cases h
      unfold rotatable at usable
      exact plain ⟨sound, (of_decide_eq_true (Bool.and_eq_true_iff.mp usable).1).1⟩
        (fun _ hissue => by cases hissue)
    · cases h
  · rename_i values row credential now hprocess
    rw [hprocess] at sound
    split at h
    · cases h
      exact inv.put _ ⟨sound, rfl, rfl⟩ (fun _ hissue => by cases hissue)
    · cases h
  · obtain ⟨row, hrow, rfl⟩ := Option.map_eq_some_iff.mp h
    exact plain (startUpdate_sound (exists_of_onlyRow hrow)) (fun _ hissue => by cases hissue)
  · split at h
    · obtain ⟨row, hrow, rfl⟩ := Option.map_eq_some_iff.mp h
      exact plain (exists_of_onlyRow hrow) (fun _ hissue => by cases hissue)
    · cases h
  · rename_i now tokenFamilyId hprocess
    rw [hprocess] at sound
    cases h
    exact plain (startUpdate_sound sound) (fun _ hissue => by cases hissue)
  · rename_i sessionId update hprocess
    rw [hprocess] at sound
    split at h
    · rename_i guard
      dsimp only at h
      split at h
      · cases h
        apply inv.take guard.2
        · refine ⟨sound.1, fun visited hvisited => ?_⟩
          rcases List.mem_cons.mp hvisited with rfl | hearlier
          · exact Function.update_self ..
          · by_cases same : visited = sessionId
            · rw [same]
              exact Function.update_self ..
            · rw [Function.update_of_ne same]
              exact sound.2 visited hearlier
        · exact fun _ hissue => by cases hissue
      · cases h
        exact plain ⟨sound.1, sound.2⟩ (fun _ hissue => by cases hissue)
    · cases h
  · obtain ⟨change, hchange, rfl⟩ := Option.map_eq_some_iff.mp h
    exact inv.commit hchange
  · cases h
    apply inv.finish inv.chains inv.known (fun _ hmember _ => hmember)
      (fun member hmember => ⟨member, hmember, rfl⟩)
    intro other row _ hother
    exact (hother ▸ inv.sound other : Sound sys.sessions sys.locks other (.issuing row)).2
  · cases h

end

section

variable {sys written : Sys} {pid : Nat} {action : Action} {tokenFamilyId : String}

theorem step_forms (h : step sys pid action = some written) :
    (∃ process values, written = (sys.put pid process).draw values) ∨
      (∃ sessionId process, written = sys.take pid sessionId process) ∨
      (action = .commit ∧ ∃ change, committedChange (sys.processes pid) = some change ∧
        written = sys.finish pid change) ∨
      written = sys.finish pid id := by
  have plain : ∀ process, sys.put pid process = written →
      ∃ process values, written = (sys.put pid process).draw values :=
    fun process hput => ⟨process, [], hput.symm⟩
  unfold SessionStore.step at h
  split at h
  · split at h
    · exact Or.inl ⟨_, _, (Option.some.inj h).symm⟩
    · cases h
  · obtain ⟨row, -, hput⟩ := Option.map_eq_some_iff.mp h
    exact Or.inl (plain _ hput)
  · split at h
    · obtain ⟨row, -, htake⟩ := Option.map_eq_some_iff.mp h
      exact Or.inr (Or.inl ⟨_, _, htake.symm⟩)
    · cases h
  · split at h
    · exact Or.inl (plain _ (Option.some.inj h))
    · cases h
  · split at h
    · exact Or.inl (plain _ (Option.some.inj h))
    · cases h
  · split at h
    · exact Or.inl ⟨_, _, (Option.some.inj h).symm⟩
    · cases h
  · obtain ⟨row, -, hput⟩ := Option.map_eq_some_iff.mp h
    exact Or.inl (plain _ hput)
  · split at h
    · obtain ⟨row, -, hput⟩ := Option.map_eq_some_iff.mp h
      exact Or.inl (plain _ hput)
    · cases h
  · exact Or.inl (plain _ (Option.some.inj h))
  · split at h
    · dsimp only at h
      split at h
      · exact Or.inr (Or.inl ⟨_, _, (Option.some.inj h).symm⟩)
      · exact Or.inl (plain _ (Option.some.inj h))
    · cases h
  · obtain ⟨change, hchange, hfinish⟩ := Option.map_eq_some_iff.mp h
    exact Or.inr (Or.inr (Or.inl ⟨rfl, change, hchange, hfinish.symm⟩))
  · exact Or.inr (Or.inr (Or.inr (Option.some.inj h).symm))
  · cases h

theorem step_sessions (h : step sys pid action = some written) :
    written.sessions = sys.sessions ∨ (action = .commit ∧
      ∃ change, committedChange (sys.processes pid) = some change ∧
        written = sys.finish pid change) := by
  rcases step_forms h with ⟨process, values, rfl⟩ | ⟨sessionId, process, rfl⟩ | hcommit | rfl
  · exact Or.inl rfl
  · exact Or.inl rfl
  · exact Or.inr hcommit
  · exact Or.inl rfl

theorem step_processes (h : step sys pid action = some written) {other : Nat}
    (distinct : other ≠ pid) : written.processes other = sys.processes other := by
  rcases step_forms h with ⟨process, values, rfl⟩ | ⟨sessionId, process, rfl⟩ |
    ⟨-, change, -, rfl⟩ | rfl
  · exact put_processes_of_ne process distinct
  · exact Function.update_of_ne distinct ..
  · exact Function.update_of_ne distinct ..
  · exact Function.update_of_ne distinct ..

theorem active_after_commit {change : List SessionRow → List SessionRow} {row : SessionRow}
    (h : committedChange (sys.processes pid) = some change) (hrow : row ∈ change sys.sessions)
    (active : isActive row) :
    (∃ before ∈ sys.sessions, before.sessionId = row.sessionId ∧
        before.tokenFamilyId = row.tokenFamilyId ∧ isActive before) ∨
      sys.processes pid = .issuing row ∨
      ∃ earlier now, sys.processes pid = .rotated earlier row now := by
  cases hprocess : sys.processes pid with
  | idle | waiting sessionId credential now | authenticated tokenFamilyId
  | rotating row credential now => simp [hprocess, committedChange] at h
  | issuing added =>
    rw [hprocess] at h
    cases h
    rcases List.mem_append.mp hrow with hold | hnew
    · exact Or.inl ⟨row, hold, rfl, rfl, active⟩
    · rw [List.mem_singleton.mp hnew]
      exact Or.inr (Or.inl rfl)
  | holding held credential now =>
    rw [hprocess] at h
    simp only [committedChange] at h
    split at h
    · cases h
    · cases h
      exact Or.inl ⟨row, hrow, rfl, rfl, active⟩
  | rotated earlier successor now =>
    rw [hprocess] at h
    cases h
    rcases List.mem_append.mp hrow with hold | hnew
    · obtain ⟨before, hbefore, rfl⟩ := List.mem_map.mp hold
      obtain ⟨hactive, differs⟩ := rotateSession_active active
      refine Or.inl ⟨before, hbefore, ?_, (rotateSession_family ..).symm, hactive⟩
      unfold rotateSession
      rw [if_neg differs]
    · rw [List.mem_singleton.mp hnew]
      exact Or.inr (Or.inr ⟨earlier, now, rfl⟩)
  | revoking update =>
    rw [hprocess] at h
    simp only [committedChange] at h
    split at h
    · cases h
      obtain ⟨before, hbefore, rfl⟩ := List.mem_map.mp hrow
      obtain ⟨hactive, differs⟩ := revokeSessions_active active
      refine Or.inl ⟨before, hbefore, ?_, (revokeSessions_family ..).symm, hactive⟩
      unfold revokeSessions
      rw [if_neg differs]
    · cases h

theorem exists_after_step (h : step sys pid action = some written)
    (present : Exists sys tokenFamilyId) : Exists written tokenFamilyId := by
  obtain ⟨row, hrow, rfl⟩ := present
  rcases step_sessions h with hsame | ⟨rfl, change, hchange, rfl⟩
  · exact ⟨row, hsame ▸ hrow, rfl⟩
  · cases hprocess : sys.processes pid with
    | idle | waiting sessionId credential now | authenticated tokenFamilyId
    | rotating row credential now => simp [hprocess, committedChange] at hchange
    | issuing added =>
      rw [hprocess] at hchange
      cases hchange
      exact ⟨row, List.mem_append_left _ hrow, rfl⟩
    | holding held credential now =>
      rw [hprocess] at hchange
      simp only [committedChange] at hchange
      split at hchange
      · cases hchange
      · cases hchange
        exact ⟨row, hrow, rfl⟩
    | rotated earlier successor now =>
      rw [hprocess] at hchange
      cases hchange
      exact ⟨_, List.mem_append_left _ (List.mem_map_of_mem hrow), rotateSession_family ..⟩
    | revoking update =>
      rw [hprocess] at hchange
      simp only [committedChange] at hchange
      split at hchange
      · cases hchange
        exact ⟨_, List.mem_map_of_mem hrow, revokeSessions_family ..⟩
      · cases hchange

end

section

variable {sys written : Sys} {pid : Nat} {action : Action} {tokenFamilyId : String}
  {process : Process} {sessionId : String} {update : FamilyUpdate}

/-- The rows that an `UPDATE` visits include every active row of its family. -/
def Covered (sessions : List SessionRow) : Process → Prop
  | .revoking update => ∀ row ∈ sessions, row.tokenFamilyId = update.tokenFamilyId →
      isActive row → row.sessionId ∈ update.candidates ∨ row.sessionId ∈ update.done
  | _ => True

def Covers (sys : Sys) : Prop := ∀ pid, Covered sys.sessions (sys.processes pid)

def Closed (sys : Sys) (tokenFamilyId : String) : Prop :=
  Exists sys tokenFamilyId ∧
    ∀ row ∈ sys.sessions, row.tokenFamilyId = tokenFamilyId → ¬ isActive row

theorem startUpdate_covered {reason : String} {now : Int} :
    Covered sys.sessions (.revoking (sys.startUpdate tokenFamilyId reason now)) := by
  intro row hrow hfamily active
  refine Or.inl (List.mem_map_of_mem (List.mem_filter.mpr ⟨hrow, ?_⟩))
  exact decide_eq_true ⟨hfamily, Or.inl active⟩

theorem Covers.put (covers : Covers sys) (values : List String)
    (covered : Covered sys.sessions process) : Covers ((sys.put pid process).draw values) := by
  intro p
  by_cases self : p = pid
  · subst self
    exact (put_processes_self process).symm ▸ covered
  · exact (put_processes_of_ne process self).symm ▸ covers p

theorem Covers.take (covers : Covers sys)
    (covered : Covered sys.sessions process) : Covers (sys.take pid sessionId process) :=
  covers.put [] covered

theorem visit_covered {done : List String} (covered : Covered sys.sessions (.revoking update))
    (earlier : ∀ visited ∈ update.done, visited ∈ done)
    (visited : ∀ row ∈ sys.sessions, row.sessionId = sessionId →
      row.tokenFamilyId = update.tokenFamilyId → isActive row → sessionId ∈ done) :
    Covered sys.sessions (.revoking { update with
      candidates := update.candidates.erase sessionId
      done := done }) := by
  intro row hrow hfamily active
  by_cases same : row.sessionId = sessionId
  · exact Or.inr (same ▸ visited row hrow same hfamily active)
  · rcases covered row hrow hfamily active with hleft | hdone
    · exact Or.inl ((List.mem_erase_of_ne same).mpr hleft)
    · exact Or.inr (earlier _ hdone)

theorem Covers.commit (inv : Inv sys) (covers : Covers sys)
    {change : List SessionRow → List SessionRow}
    (h : committedChange (sys.processes pid) = some change)
    (undisturbed : ¬ Overtakes sys pid .commit) : Covers (sys.finish pid change) := by
  intro p
  by_cases self : p = pid
  · subst self
    simp only [Sys.finish, Function.update_self]
    trivial
  · simp only [Sys.finish, Function.update_of_ne self]
    have covered := covers p
    have sound := inv.sound p
    cases hprocess : sys.processes p with
    | revoking update =>
      rw [hprocess] at covered sound
      intro row hrow hfamily active
      rcases active_after_commit h hrow active with ⟨before, hbefore, hid, hsame, hactive⟩ |
        hissuing | ⟨earlier, now, hrotated⟩
      · exact hid ▸ covered before hbefore (hsame.trans hfamily) hactive
      · obtain ⟨known, hknown, hknownFamily⟩ := sound.1
        have fresh : Sound sys.sessions sys.locks pid (.issuing row) := hissuing ▸ inv.sound pid
        exact absurd (hknownFamily.trans hfamily.symm) (fresh.2 known hknown)
      · have rotated : Sound sys.sessions sys.locks pid (.rotated earlier row now) :=
          hrotated ▸ inv.sound pid
        exact absurd ⟨rfl, earlier, row, now, hrotated, p, update, hprocess,
          hfamily.symm.trans rotated.2.2⟩ undisturbed
    | idle | waiting sessionId credential now | authenticated tokenFamilyId | issuing row
    | holding row credential now | rotating row credential now | rotated row successor now =>
        trivial

theorem Covers.step (inv : Inv sys) (covers : Covers sys)
    (undisturbed : ¬ Overtakes sys pid action) (h : step sys pid action = some written) :
    Covers written := by
  have plain : ∀ {process : Process}, Covered sys.sessions process →
      Covers ((sys.put pid process).draw []) :=
    fun covered => covers.put [] covered
  unfold SessionStore.step at h
  split at h
  · split at h
    · cases h
      exact covers.put _ trivial
    · cases h
  · obtain ⟨row, hrow, rfl⟩ := Option.map_eq_some_iff.mp h
    exact plain trivial
  · split at h
    · obtain ⟨row, hrow, rfl⟩ := Option.map_eq_some_iff.mp h
      exact covers.take trivial
    · cases h
  · split at h
    · cases h
      exact plain startUpdate_covered
    · cases h
  · split at h
    · cases h
      exact plain trivial
    · cases h
  · split at h
    · cases h
      exact covers.put _ trivial
    · cases h
  · obtain ⟨row, hrow, rfl⟩ := Option.map_eq_some_iff.mp h
    exact plain startUpdate_covered
  · split at h
    · obtain ⟨row, hrow, rfl⟩ := Option.map_eq_some_iff.mp h
      exact plain trivial
    · cases h
  · cases h
    exact plain startUpdate_covered
  · rename_i sessionId update hprocess
    have covered : Covered sys.sessions (.revoking update) := hprocess ▸ covers pid
    split at h
    · dsimp only at h
      split at h
      · cases h
        exact covers.take (visit_covered covered
          (fun _ hdone => List.mem_cons_of_mem _ hdone) (fun _ _ _ _ _ => List.mem_cons_self))
      · rename_i unmatched
        cases h
        refine plain (visit_covered covered (fun _ hdone => hdone) ?_)
        intro row hrow hid hfamily active
        refine absurd (List.any_eq_true.mpr ⟨row, hrow, ?_⟩) unmatched
        exact Bool.and_eq_true_iff.mpr ⟨decide_eq_true hid,
          decide_eq_true ⟨hfamily, Or.inl active⟩⟩
    · cases h
  · obtain ⟨change, hchange, rfl⟩ := Option.map_eq_some_iff.mp h
    exact covers.commit inv hchange undisturbed
  · cases h
    intro p
    by_cases self : p = pid
    · subst self
      simp only [Sys.finish, Function.update_self]
      trivial
    · simp only [Sys.finish, Function.update_of_ne self]
      exact covers p
  · cases h

theorem Closed.step (inv : Inv sys) (closed : Closed sys tokenFamilyId)
    (h : step sys pid action = some written) : Closed written tokenFamilyId := by
  refine ⟨exists_after_step h closed.1, ?_⟩
  intro row hrow hfamily active
  rcases step_sessions h with hsame | ⟨rfl, change, hchange, rfl⟩
  · exact closed.2 row (hsame ▸ hrow) hfamily active
  · rcases active_after_commit hchange hrow active with ⟨before, hbefore, -, hsame, hactive⟩ |
      hissuing | ⟨earlier, now, hrotated⟩
    · exact closed.2 before hbefore (hsame.trans hfamily) hactive
    · obtain ⟨known, hknown, hknownFamily⟩ := closed.1
      have fresh : Sound sys.sessions sys.locks pid (.issuing row) := hissuing ▸ inv.sound pid
      exact absurd (hknownFamily.trans hfamily.symm) (fresh.2 known hknown)
    · have rotated : Sound sys.sessions sys.locks pid (.rotated earlier row now) :=
        hrotated ▸ inv.sound pid
      exact closed.2 earlier rotated.1.1.1 (rotated.2.2.symm.trans hfamily) rotated.1.2

theorem closed_of_commit (inv : Inv sys) (covers : Covers sys)
    (hprocess : sys.processes pid = .revoking update)
    (h : step sys pid .commit = some written) : Closed written update.tokenFamilyId := by
  have sound : Sound sys.sessions sys.locks pid (.revoking update) := hprocess ▸ inv.sound pid
  have covered : Covered sys.sessions (.revoking update) := hprocess ▸ covers pid
  refine ⟨exists_after_step h sound.1, ?_⟩
  unfold SessionStore.step at h
  obtain ⟨change, hchange, rfl⟩ := Option.map_eq_some_iff.mp h
  rw [hprocess] at hchange
  simp only [committedChange] at hchange
  split at hchange
  · rename_i visited
    cases hchange
    intro row hrow hfamily active
    obtain ⟨before, hbefore, rfl⟩ := List.mem_map.mp hrow
    obtain ⟨hactive, unrevoked⟩ := revokeSessions_active active
    rw [revokeSessions_family] at hfamily
    rcases covered before hbefore hfamily hactive with hleft | hdone
    · rw [visited] at hleft
      exact List.not_mem_nil hleft
    · exact unrevoked hdone
  · cases hchange

end

end JbChat.Identity.SessionFamilies
