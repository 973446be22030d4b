/- source: src/production/identity/enrollmentStore.ts, src/production/http/messagingHttp.ts
   digest: When a revoked family stays revoked, and the rotation that escapes its revocation. -/

import JbChat.Identity.SessionFamilies

set_option autoImplicit false

namespace JbChat.Identity.FamilyRevocation

open SessionStore SessionFamilies

section

variable {sys final : Sys} {events : List (Nat × Action)} {tokenFamilyId : String}

def activeSessions (sys : Sys) (tokenFamilyId : String) : List SessionRow :=
  (family tokenFamilyId sys.sessions).filter fun row => decide (isActive row)

theorem run_keeps (inv : Sys → Prop)
    (step_keeps : ∀ {sys written pid action}, inv sys → step sys pid action = some written →
      inv written) (start : inv sys) (h : run sys events = some final) : inv final := by
  induction events generalizing sys with
  | nil => exact Option.some.inj h ▸ start
  | cons event rest ih =>
    obtain ⟨written, hstep, hrest⟩ := Option.bind_eq_some_iff.mp h
    exact ih (step_keeps start hstep) hrest

theorem closed_run (inv : Inv sys) (closed : Closed sys tokenFamilyId)
    (h : run sys events = some final) : Closed final tokenFamilyId :=
  (run_keeps (fun sys => Inv sys ∧ Closed sys tokenFamilyId)
    (fun kept hstep => ⟨kept.1.step hstep, kept.2.step kept.1 hstep⟩) ⟨inv, closed⟩ h).2

theorem closed_of_revokedBy (inv : Inv sys) (covers : Covers sys)
    (undisturbed : Undisturbed sys events) (h : run sys events = some final) :
    ∀ tokenFamilyId ∈ revokedBy sys events, Closed final tokenFamilyId := by
  induction events generalizing sys with
  | nil => exact fun _ hrevoked => absurd hrevoked List.not_mem_nil
  | cons event rest ih =>
    obtain ⟨pid, action⟩ := event
    obtain ⟨written, hstep, hrest⟩ := Option.bind_eq_some_iff.mp h
    obtain ⟨apart, onwards⟩ := undisturbed
    have later := ih (inv.step hstep) (covers.step inv apart hstep) (onwards written hstep) hrest
    intro tokenFamilyId hrevoked
    unfold revokedBy at hrevoked
    rw [hstep] at hrevoked
    dsimp only at hrevoked
    split at hrevoked
    · rename_i update hprocess
      rcases List.mem_cons.mp hrevoked with rfl | hlater
      · exact closed_run (inv.step hstep) (closed_of_commit inv covers hprocess hstep) hrest
      · exact later tokenFamilyId hlater
    · exact later tokenFamilyId hrevoked

/-- In every run the generations of a family are numbered from zero without a gap and at most one
of its sessions is active; when no rotation overtakes a revocation of its family, a family that
was revoked has no active session again. -/
theorem revoked_families_stay_revoked (events : List (Nat × Action)) (final : Sys)
    (h : run Sys.start events = some final) (undisturbed : Undisturbed Sys.start events) :
    (∀ tokenFamilyId, (family tokenFamilyId final.sessions).map SessionRow.refreshGeneration =
        List.range (family tokenFamilyId final.sessions).length ∧
      (activeSessions final tokenFamilyId).length ≤ 1) ∧
    ∀ tokenFamilyId ∈ revokedBy Sys.start events, activeSessions final tokenFamilyId = [] := by
  have inv : Inv final := run_keeps Inv (fun kept hstep => kept.step hstep) Inv.start h
  have covers : Covers Sys.start := fun _ => trivial
  refine ⟨fun tokenFamilyId => ⟨(inv.chains tokenFamilyId).numbered,
    (inv.chains tokenFamilyId).filter_live_length⟩, fun tokenFamilyId hrevoked => ?_⟩
  have closed := closed_of_revokedBy Inv.start covers undisturbed h tokenFamilyId hrevoked
  unfold activeSessions
  rw [List.filter_eq_nil_iff]
  intro row hrow active
  obtain ⟨hmember, hfamily⟩ := mem_family.mp hrow
  exact closed.2 row hmember hfamily (of_decide_eq_true active)

end

theorem undisturbed_solo {sys : Sys} {pid : Nat} {actions : List Action}
    (idle : ∀ other, other ≠ pid → sys.processes other = .idle) :
    Undisturbed sys (actions.map fun action => (pid, action)) := by
  induction actions generalizing sys with
  | nil => trivial
  | cons action rest ih =>
    refine ⟨?_, fun written hstep => ih fun other distinct => ?_⟩
    · rintro ⟨-, row, successor, now, hrotated, other, update, hother, -⟩
      by_cases self : other = pid
      · rw [self, hrotated] at hother
        cases hother
      · rw [idle other self] at hother
        cases hother
    · exact (step_processes hstep distinct).trans (idle other distinct)

def sampleCredential : CredentialReading :=
  ⟨"credential", "account", "installation", List.replicate 32 7, 1, true, 100000000⟩

/-- Session `one` is issued and its refresh token presented; its successor is written but not
committed. -/
def sampleRotation : List Action :=
  [.issueSession ⟨"https://example.test", "client"⟩ sampleCredential "family"
      ⟨"one", [1], [11]⟩ 1000,
    .commit, .refreshSession [11] sampleCredential 2000, .lockSession, .rotate,
    .insertSuccessor ⟨"two", [2], [12]⟩]

def sampleOrdered : List Action :=
  sampleRotation ++ [.commit, .revokeSessionFamily [12] 3000, .visitRow "two", .visitRow "one",
    .commit]

def sampleOvertaken : List (Nat × Action) :=
  (sampleRotation.map fun action => (0, action)) ++
    [(1, .revokeSessionFamily [11] 2000), (0, .commit), (1, .visitRow "one"), (1, .commit)]

/-- The logout commits after the rotation it waited for, and the successor stays active. -/
theorem rotation_escapes_revocation :
    revokedBy Sys.start sampleOvertaken = ["family"] ∧
      ((run Sys.start sampleOvertaken).map fun final =>
        (activeSessions final "family").map SessionRow.sessionId) = some ["two"] := by
  decide +kernel

/-- In order, the logout revokes both sessions of the family. -/
theorem revoked_families_stay_revoked_ordered :
    ∃ final, run Sys.start (sampleOrdered.map fun action => (0, action)) = some final ∧
      ((∀ tokenFamilyId, (family tokenFamilyId final.sessions).map SessionRow.refreshGeneration =
          List.range (family tokenFamilyId final.sessions).length ∧
        (activeSessions final tokenFamilyId).length ≤ 1) ∧
      ∀ tokenFamilyId ∈ revokedBy Sys.start (sampleOrdered.map fun action => (0, action)),
        activeSessions final tokenFamilyId = []) ∧
      final.sessions.map SessionRow.state = [.revoked, .revoked] := by
  have ends : ((run Sys.start (sampleOrdered.map fun action => (0, action))).map fun final =>
      final.sessions.map SessionRow.state) = some [.revoked, .revoked] := by decide +kernel
  obtain ⟨final, hfinal, hstates⟩ := Option.map_eq_some_iff.mp ends
  exact ⟨final, hfinal, revoked_families_stay_revoked _ final hfinal
    (undisturbed_solo fun _ _ => rfl), hstates⟩

end JbChat.Identity.FamilyRevocation
