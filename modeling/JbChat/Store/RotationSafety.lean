/- source: src/production/storage/externalSenderRotation.ts, appendAuthority.ts
   digest: Which rotation runs keep the publication lead, and one that does not. -/

import JbChat.Store.SenderRotation

set_option autoImplicit false

namespace JbChat.Store.RotationSafety

open Foundation.HashTrace
open Foundation.Transaction Delivery.ValueObjects Tables Provisioning SenderRotation

variable {keys : AuthorityDerivations} {H : HashFunction} {projects : List String} {bound : Nat}

section

variable {row : ExternalSenderCredentialRow} {limit : String → Nat}

def Takes (tables : PolicyTables) (clock : PassClock) (projectRefId credentialId : String) : Prop :=
  ∃ provision ∈ tables.provisions, provision.projectRefId = projectRefId ∧
    ∃ current ∈ tables.externalSenderCredentials, ∃ staged ∈ tables.externalSenderCredentials,
      Due clock provision current staged ∧ staged.credentialId = credentialId

variable {clock : PassClock} {provision : ProvisionRow} {counts : Nat × Nat}
  {tables written : PolicyTables}

theorem rotateProject_provisions
    (h : rotateProject keys H clock provision tables = .ok (counts, written)) :
    written.provisions = tables.provisions ∨
      ∃ staged ∈ dueCredentials clock provision.projectRefId tables, ∃ nextId,
        written.provisions = tables.provisions.map
          (renamed provision.projectRefId staged.credentialId nextId) := by
  obtain ⟨promoted, rfl, rfl | ⟨staged, due, hpromote⟩⟩ := rotateProject_eq_ok h
  · exact Or.inl rfl
  · obtain ⟨inserted, hinserted, -, hprovisions⟩ := promoteStaged_eq_ok hpromote
    have hkept : inserted.provisions = tables.provisions := by
      rcases (insertSenderCredential_eq_ok hinserted).2 with ⟨-, rfl⟩ | rfl <;> rfl
    rw [hkept] at hprovisions
    exact Or.inr ⟨staged, due, _, hprovisions⟩

theorem rotateProject_keys
    (h : rotateProject keys H clock provision tables = .ok (counts, written)) :
    written.provisions.map ProvisionRow.projectRefId =
      tables.provisions.map ProvisionRow.projectRefId := by
  rcases rotateProject_provisions h with hsame | ⟨staged, -, nextId, hmap⟩
  · rw [hsame]
  · rw [hmap, List.map_map]
    exact List.map_congr_left fun row _ => renamed_projectRefId _ _ _ row

theorem rotateProject_current {p id : String}
    (h : rotateProject keys H clock provision tables = .ok (counts, written))
    (current : IsCurrent written p id) :
    IsCurrent tables p id ∨ p = provision.projectRefId ∧ Takes tables clock p id := by
  obtain ⟨row, hrow, hproject, hid⟩ := current
  rcases rotateProject_provisions h with hsame | ⟨staged, due, nextId, hmap⟩
  · exact Or.inl ⟨row, hsame ▸ hrow, hproject, hid⟩
  · rw [hmap, List.mem_map] at hrow
    obtain ⟨old, hold, rfl⟩ := hrow
    rw [renamed_projectRefId] at hproject
    by_cases hown : old.projectRefId = provision.projectRefId
    · rw [renamed, if_pos hown] at hid
      obtain ⟨named, hnamed, first, hfirst, hstaged, howner, hdue⟩ := mem_dueCredentials.mp due
      refine Or.inr ⟨hproject.symm.trans hown, named, hnamed, ?_, first, hfirst, staged, hstaged,
        hdue, hid⟩
      rw [howner, ← hown, hproject]
    · rw [renamed, if_neg hown] at hid
      exact Or.inl ⟨old, hold, hproject, hid⟩

theorem rotateProject_credentials_other
    (h : rotateProject keys H clock provision tables = .ok (counts, written))
    (hrow : row ∈ written.externalSenderCredentials)
    (hother : row.projectRefId ≠ provision.projectRefId) :
    row ∈ tables.externalSenderCredentials := by
  obtain ⟨promoted, rfl, hpromoted⟩ := rotateProject_eq_ok h
  have hunretired : row ∈ promoted.externalSenderCredentials := by
    obtain ⟨old, hold, heq⟩ := List.mem_map.mp hrow
    by_cases hexpired : isExpired clock provision.projectRefId old = true
    · rw [if_pos hexpired] at heq
      rw [isExpired, decide_eq_true_eq] at hexpired
      exact absurd (by rw [← heq]; exact hexpired.1) hother
    · rw [if_neg hexpired] at heq
      exact heq ▸ hold
  obtain rfl | ⟨staged, -, hpromote⟩ := hpromoted
  · exact hunretired
  · obtain ⟨inserted, hinserted, hcredentials, -⟩ := promoteStaged_eq_ok hpromote
    rw [hcredentials] at hunretired
    rcases (insertSenderCredential_eq_ok hinserted).2 with ⟨-, rfl⟩ | rfl
    · exact hunretired
    · rcases List.mem_append.mp hunretired with hold | hnew
      · exact hold
      · rw [List.mem_singleton.mp hnew] at hother
        exact absurd rfl hother

theorem rotateProject_provisions_other {row : ProvisionRow}
    (h : rotateProject keys H clock provision tables = .ok (counts, written))
    (hrow : row ∈ written.provisions) (hother : row.projectRefId ≠ provision.projectRefId) :
    row ∈ tables.provisions := by
  rcases rotateProject_provisions h with hsame | ⟨staged, -, nextId, hmap⟩
  · exact hsame ▸ hrow
  · rw [hmap, List.mem_map] at hrow
    obtain ⟨old, hold, rfl⟩ := hrow
    rw [renamed_projectRefId] at hother
    rw [renamed, if_neg hother]
    exact hold

theorem named_project (inv : Generations keys H projects limit tables)
    (distinct : DistinctSenders keys H projects bound) (hlimit : ∀ p, limit p ≤ bound)
    (hmem : provision ∈ tables.provisions) (hrow : row ∈ tables.externalSenderCredentials)
    (named : row.credentialId = provision.currentExternalSenderCredentialId ∨
      row.credentialId = provision.stagedExternalSenderCredentialId) :
    row.projectRefId = provision.projectRefId := by
  obtain ⟨current, hc, staged, hs, hcp, hsp, hcid, hsid, -, -⟩ := inv.paired provision hmem
  rcases named with hnamed | hnamed
  · rw [inv.eq_of_id distinct hlimit hrow hc (hnamed.trans hcid.symm), hcp]
  · rw [inv.eq_of_id distinct hlimit hrow hs (hnamed.trans hsid.symm), hsp]

theorem rotateProject_takes_other {later : PassClock} {p id : String}
    (inv : Generations keys H projects limit written)
    (distinct : DistinctSenders keys H projects bound) (hlimit : ∀ p, limit p ≤ bound)
    (h : rotateProject keys H clock provision tables = .ok (counts, written))
    (hother : p ≠ provision.projectRefId) (takes : Takes written later p id) :
    Takes tables later p id := by
  obtain ⟨named, hnamed, rfl, current, hcurrent, staged, hstaged, due, hid⟩ := takes
  have hcp := named_project inv distinct hlimit hnamed hcurrent (Or.inl due.1)
  have hsp := named_project inv distinct hlimit hnamed hstaged (Or.inr due.2.1)
  exact ⟨named, rotateProject_provisions_other h hnamed hother, rfl, current,
    rotateProject_credentials_other h hcurrent (hcp ▸ hother), staged,
    rotateProject_credentials_other h hstaged (hsp ▸ hother), due, hid⟩

theorem isDue_of_takes {p id : String} (takes : Takes tables clock p id) :
    IsDue clock p tables := by
  obtain ⟨named, hnamed, howner, current, hcurrent, staged, hstaged, due, -⟩ := takes
  exact List.ne_nil_of_mem
    (mem_dueCredentials.mpr ⟨named, hnamed, current, hcurrent, hstaged, howner, due⟩)

/-- A provision names a current credential that ends at one time and a staged credential that has
been published since another. -/
def Pair (tables : PolicyTables) (projectRefId : String) (ends since : Int) : Prop :=
  ∃ provision ∈ tables.provisions, provision.projectRefId = projectRefId ∧
    ∃ current ∈ tables.externalSenderCredentials, ∃ staged ∈ tables.externalSenderCredentials,
      current.credentialId = provision.currentExternalSenderCredentialId ∧
      staged.credentialId = provision.stagedExternalSenderCredentialId ∧
      current.expiresAt = ends ∧ staged.notBefore = since

variable {p : String} {ends since : Int}

theorem pair_of_retireExpired {owner : String}
    (pair : Pair (retireExpired clock owner tables) p ends since) : Pair tables p ends since := by
  obtain ⟨named, hnamed, howner, current, hcurrent, staged, hstaged, hcid, hsid, hends, hsince⟩ :=
    pair
  have kept : ∀ row ∈ (retireExpired clock owner tables).externalSenderCredentials,
      ∃ old ∈ tables.externalSenderCredentials, row.credentialId = old.credentialId ∧
        row.expiresAt = old.expiresAt ∧ row.notBefore = old.notBefore := by
    intro row hrow
    obtain ⟨old, hold, rfl⟩ := List.mem_map.mp hrow
    refine ⟨old, hold, ?_⟩
    split <;> exact ⟨rfl, rfl, rfl⟩
  obtain ⟨first, hfirst, hfid, hfends, -⟩ := kept current hcurrent
  obtain ⟨second, hsecond, hsecondId, -, hssince⟩ := kept staged hstaged
  exact ⟨named, hnamed, howner, first, hfirst, second, hsecond, hfid.symm.trans hcid,
    hsecondId.symm.trans hsid, hfends.symm.trans hends, hssince.symm.trans hsince⟩

theorem pair_of_promote {staged : ExternalSenderCredentialRow} {promoted : PolicyTables}
    (inv : Generations keys H projects limit tables)
    (distinct : DistinctSenders keys H projects bound) (hlimit : ∀ p, limit p ≤ bound)
    (hnext : limit provision.projectRefId + 1 ≤ bound)
    (due : staged ∈ dueCredentials clock provision.projectRefId tables)
    (h : promoteStaged keys H clock provision staged tables = .ok promoted)
    (pair : Pair promoted p ends since) :
    Pair tables p ends since ∨ p = provision.projectRefId ∧ since = clock.notBefore := by
  obtain ⟨-, hrows, hprovisions⟩ := inv.promote_rows distinct hlimit hnext due h
  have invPromoted := inv.promote distinct hlimit hnext due h
  have hraised : ∀ p, raise limit provision.projectRefId p ≤ bound := by
    intro p
    unfold raise
    split
    · rename_i hp
      exact hp ▸ hnext
    · exact hlimit p
  obtain ⟨named, hnamed, rfl, current, hcurrent, next, hstaged, hcid, hsid, hends, hsince⟩ := pair
  have hcp := named_project invPromoted distinct hraised hnamed hcurrent (Or.inl hcid)
  have hsp := named_project invPromoted distinct hraised hnamed hstaged (Or.inr hsid)
  rw [hprovisions] at hnamed
  obtain ⟨old, hold, rfl⟩ := List.mem_map.mp hnamed
  rw [renamed_projectRefId] at hcp hsp ⊢
  by_cases howner : old.projectRefId = provision.projectRefId
  · rw [renamed, if_pos howner] at hsid
    have hsame := invPromoted.eq_of_id distinct hraised hstaged
      (hrows ▸ List.mem_append_right _ (List.mem_singleton_self _)) hsid
    rw [hsame] at hsince
    exact Or.inr ⟨howner, hsince.symm⟩
  · rw [renamed, if_neg howner] at hcid hsid
    have kept : ∀ row ∈ promoted.externalSenderCredentials, row.projectRefId = old.projectRefId →
        row ∈ tables.externalSenderCredentials := by
      intro row hrow hproject
      rw [hrows, List.mem_append, List.mem_singleton] at hrow
      rcases hrow with hold | rfl
      · exact hold
      · exact absurd hproject.symm howner
    exact Or.inl ⟨old, hold, rfl, current, kept current hcurrent hcp, next, kept next hstaged hsp,
      hcid, hsid, hends, hsince⟩

/-- A project's transaction changes its own pair only, and only when it finds it due. -/
theorem rotateProject_pair (inv : Generations keys H projects limit tables)
    (distinct : DistinctSenders keys H projects bound) (hlimit : ∀ p, limit p ≤ bound)
    (hnext : limit provision.projectRefId + 1 ≤ bound)
    (h : rotateProject keys H clock provision tables = .ok (counts, written))
    (pair : Pair written p ends since) : Pair tables p ends since ∨
      p = provision.projectRefId ∧ since = clock.notBefore ∧ ∃ id, Takes tables clock p id := by
  obtain ⟨promoted, rfl, rfl | ⟨staged, due, hpromote⟩⟩ := rotateProject_eq_ok h
  · exact Or.inl (pair_of_retireExpired pair)
  · rcases pair_of_promote inv distinct hlimit hnext due hpromote (pair_of_retireExpired pair) with
      hbefore | ⟨hp, hsince⟩
    · exact Or.inl hbefore
    · obtain ⟨named, hnamed, current, hcurrent, hstaged, howner, hdue⟩ := mem_dueCredentials.mp due
      exact Or.inr ⟨hp, hsince, staged.credentialId, named, hnamed, howner.trans hp.symm, current,
        hcurrent, staged, hstaged, hdue, rfl⟩

/-- Provisioning publishes both credentials for the same time. -/
theorem pair_of_provisioned {projectRefId : String} {now : Int} {row : ProvisionRow}
    (inv : Generations keys H projects (fun _ => bound) tables)
    (distinct : DistinctSenders keys H projects bound) (hbound : 2 ≤ bound)
    (hproject : projectRefId ∈ projects)
    (provisioned : Provisioned keys H projectRefId now tables written row)
    (pair : Pair written p ends since) :
    Pair tables p ends since ∨ ends = since + lifetime := by
  have invWritten := inv.provision hbound hproject provisioned
  obtain ⟨hown, hfree, hprovisions, hrows, hcurrentId, hstagedId⟩ := provisioned
  have hfirst : firstCredential keys H projectRefId now ∈ written.externalSenderCredentials := by
    rw [hrows]
    exact List.mem_append_right _ List.mem_cons_self
  have hsecond : secondCredential keys H projectRefId now ∈ written.externalSenderCredentials := by
    rw [hrows]
    exact List.mem_append_right _ (List.mem_cons_of_mem _ List.mem_cons_self)
  obtain ⟨named, hnamed, rfl, current, hcurrent, staged, hstaged, hcid, hsid, rfl, rfl⟩ := pair
  have hcp := named_project invWritten distinct (fun _ => le_rfl) hnamed hcurrent (Or.inl hcid)
  have hsp := named_project invWritten distinct (fun _ => le_rfl) hnamed hstaged (Or.inr hsid)
  rw [hprovisions, List.mem_append, List.mem_singleton] at hnamed
  rcases hnamed with hold | rfl
  · have hother : named.projectRefId ≠ projectRefId := fun heq =>
      hfree (heq ▸ List.mem_map_of_mem hold)
    have kept : ∀ row ∈ written.externalSenderCredentials, row.projectRefId = named.projectRefId →
        row ∈ tables.externalSenderCredentials := by
      intro row hrow hproject
      rw [hrows, List.mem_append, List.mem_cons, List.mem_singleton] at hrow
      rcases hrow with hrow | rfl | rfl
      · exact hrow
      · exact absurd hproject.symm hother
      · exact absurd hproject.symm hother
    exact Or.inl ⟨named, hold, rfl, current, kept current hcurrent hcp, staged,
      kept staged hstaged hsp, hcid, hsid, rfl, rfl⟩
  · right
    rw [invWritten.eq_of_id distinct (fun _ => le_rfl) hcurrent hfirst (hcid.trans hcurrentId),
      invWritten.eq_of_id distinct (fun _ => le_rfl) hstaged hsecond (hsid.trans hstagedId)]
    rfl

end

section

variable {newest : Nat}

/-- What a pass over some projects leaves behind, none of them past `newest` generations. -/
structure PassOutcome (keys : AuthorityDerivations) (H : HashFunction) (projects : List String)
    (newest : Nat) (clock : String → PassClock) (done : List String)
    (tables after : PolicyTables) : Prop where
  generations : Generations keys H projects (fun _ => newest) after
  keys : after.provisions.map ProvisionRow.projectRefId =
    tables.provisions.map ProvisionRow.projectRefId
  current : ∀ p id, IsCurrent after p id → IsCurrent tables p id ∨
    p ∈ done ∧ Takes tables (clock p) p id
  pairs : ∀ p ends since, Pair after p ends since → Pair tables p ends since ∨
    p ∈ done ∧ since = (clock p).notBefore ∧ ∃ id, Takes tables (clock p) p id

theorem rotateEach_outcome (distinct : DistinctSenders keys H projects bound)
    (hnewest : newest + 1 ≤ bound) (clock : String → PassClock) (todo : List ProvisionRow)
    (report : ExternalSenderRotationReport) (tables : PolicyTables) (limit : String → Nat)
    (nodup : (todo.map ProvisionRow.projectRefId).Nodup) (hlimit : ∀ p, limit p ≤ newest + 1)
    (htodo : ∀ p ∈ todo.map ProvisionRow.projectRefId, limit p ≤ newest)
    (inv : Generations keys H projects limit tables) :
    PassOutcome keys H projects (newest + 1) clock (todo.map ProvisionRow.projectRefId) tables
      (rotateEach keys H clock todo report tables).2 := by
  induction todo generalizing report tables limit with
  | nil => exact ⟨inv.mono hlimit, rfl, fun p id h => Or.inl h, fun p ends since h => Or.inl h⟩
  | cons provision others ih =>
    rw [List.map_cons, List.nodup_cons] at nodup
    rw [List.map_cons, List.forall_mem_cons] at htodo
    unfold rotateEach
    rcases sqlBegin_cases (rotateProject keys H (clock provision.projectRefId) provision) tables
      with ⟨⟨promoted, retired⟩, written, htx, hrun⟩ | ⟨failure, -, hrun⟩
    · rw [hrun]
      have hbounded : ∀ p, limit p ≤ bound := fun p => (hlimit p).trans hnewest
      have hraised : ∀ p, raise limit provision.projectRefId p ≤ newest + 1 := by
        intro p
        unfold raise
        split
        · rename_i hp
          rw [hp]
          exact Nat.add_le_add_right htodo.1 1
        · exact hlimit p
      have hnext := (Nat.add_le_add_right htodo.1 1).trans hnewest
      have invWritten := inv.rotateProject distinct hbounded hnext htx
      have rest := ih ⟨report.examined, report.promoted + promoted, report.retired + retired⟩
        written (raise limit provision.projectRefId) nodup.2 hraised (by
          intro p hp
          have hother : p ≠ provision.projectRefId := fun heq => nodup.1 (heq ▸ hp)
          rw [raise, if_neg hother]
          exact htodo.2 p hp) invWritten
      have other : ∀ p ∈ others.map ProvisionRow.projectRefId, ∀ id,
          Takes written (clock p) p id → Takes tables (clock p) p id := by
        intro p hp id takes
        have hother : p ≠ provision.projectRefId := fun heq => nodup.1 (heq ▸ hp)
        exact rotateProject_takes_other invWritten distinct (fun p => (hraised p).trans hnewest)
          htx hother takes
      refine ⟨rest.generations, rest.keys.trans (rotateProject_keys htx), fun p id h => ?_,
        fun p ends since h => ?_⟩
      · rw [List.map_cons, List.mem_cons]
        rcases rest.current p id h with hwritten | ⟨hp, takes⟩
        · rcases rotateProject_current htx hwritten with hbefore | ⟨rfl, takes⟩
          · exact Or.inl hbefore
          · exact Or.inr ⟨Or.inl rfl, takes⟩
        · exact Or.inr ⟨Or.inr hp, other p hp id takes⟩
      · rw [List.map_cons, List.mem_cons]
        rcases rest.pairs p ends since h with hwritten | ⟨hp, hsince, id, takes⟩
        · rcases rotateProject_pair inv distinct hbounded hnext htx hwritten with
            hbefore | ⟨rfl, hsince, takes⟩
          · exact Or.inl hbefore
          · exact Or.inr ⟨Or.inl rfl, hsince, takes⟩
        · exact Or.inr ⟨Or.inr hp, hsince, id, other p hp id takes⟩
    · rw [hrun]
      exact ⟨inv.mono hlimit, rfl, fun p id h => Or.inl h, fun p ends since h => Or.inl h⟩

theorem pass_outcome (distinct : DistinctSenders keys H projects bound)
    (hnewest : newest + 1 ≤ bound) {tables : PolicyTables}
    (inv : Generations keys H projects (fun _ => newest) tables) (clock : String → PassClock) :
    PassOutcome keys H projects (newest + 1) clock
      (tables.provisions.map ProvisionRow.projectRefId) tables
      (rotateExternalSenderCredentials keys H clock tables).2 :=
  rotateEach_outcome distinct hnewest clock tables.provisions _ tables (fun _ => newest) inv.keyed
    (fun _ => Nat.le_succ newest) (fun _ _ => le_rfl) inv

end

section

variable {limit : String → Nat} {tables after : PolicyTables} {p : String}

theorem generation_eq_of_id {later : String → Nat}
    (distinct : DistinctSenders keys H projects bound) (hlimit : ∀ p, limit p ≤ bound)
    (hlater : ∀ p, later p ≤ bound) (inv : Generations keys H projects limit tables)
    (invAfter : Generations keys H projects later after) {a b : ExternalSenderCredentialRow}
    (ha : a ∈ tables.externalSenderCredentials) (hb : b ∈ after.externalSenderCredentials)
    (hap : a.projectRefId = p) (hbp : b.projectRefId = p) (hid : a.credentialId = b.credentialId) :
    a.signerGeneration = b.signerGeneration := by
  subst hap
  obtain ⟨hpa, honea, hlea, hida, -⟩ := inv.derived a ha
  obtain ⟨hpb, honeb, hleb, hidb, -⟩ := invAfter.derived b hb
  exact (row_eq_of_id distinct hpa hpb ⟨honea, hlea.trans (hlimit _)⟩ ⟨honeb, hleb.trans (hlater _)⟩
    (Or.inl (by rw [← hida, ← hidb, hid]))).2

theorem provision_eq_of_project (inv : Generations keys H projects limit tables)
    {a b : ProvisionRow} (ha : a ∈ tables.provisions) (hb : b ∈ tables.provisions)
    (h : a.projectRefId = b.projectRefId) : a = b :=
  List.inj_on_of_nodup_map inv.keyed ha hb h

theorem currentGeneration_unique (distinct : DistinctSenders keys H projects bound)
    (hlimit : ∀ p, limit p ≤ bound) (inv : Generations keys H projects limit tables) {g g' : Nat}
    (h : CurrentGeneration tables p g) (h' : CurrentGeneration tables p g') :
    g = g' := by
  obtain ⟨a, ha, hap, rfl, first, hfirst, hfp, hfid⟩ := h
  obtain ⟨b, hb, hbp, rfl, second, hsecond, hsp, hsid⟩ := h'
  obtain rfl := provision_eq_of_project inv hfirst hsecond (hfp.trans hsp.symm)
  exact generation_eq_of_id distinct hlimit hlimit inv inv ha hb hap hbp (hfid.symm.trans hsid)

theorem pass_currentGeneration (distinct : DistinctSenders keys H projects bound) {newest : Nat}
    (hnewest : newest + 1 ≤ bound) (inv : Generations keys H projects (fun _ => newest) tables)
    {clock : String → PassClock} {done : List String}
    (outcome : PassOutcome keys H projects (newest + 1) clock done tables after) {g : Nat}
    (h : CurrentGeneration tables p g) :
    ∃ g', g ≤ g' ∧ CurrentGeneration after p g' := by
  have hbefore : ∀ _ : String, newest ≤ bound := fun _ => (Nat.le_succ newest).trans hnewest
  obtain ⟨row, hrow, hp, rfl, provision, hprovision, hproject, hid⟩ := h
  have hkey : p ∈ after.provisions.map ProvisionRow.projectRefId := by
    rw [outcome.keys, ← hproject]
    exact List.mem_map_of_mem hprovision
  obtain ⟨named, hnamed, hnamedProject⟩ := List.mem_map.mp hkey
  obtain ⟨current, hc, staged, hs, hcp, -, hcid, -, -, -⟩ := outcome.generations.paired named hnamed
  have hcp' : current.projectRefId = p := hcp.trans hnamedProject
  refine ⟨current.signerGeneration, ?_, current, hc, hcp', rfl, named, hnamed, hnamedProject,
    hcid.symm⟩
  rcases outcome.current p current.credentialId ⟨named, hnamed, hnamedProject, hcid.symm⟩ with
    ⟨other, hother, hop, hoid⟩ | ⟨-, other, hother, hop, first, hfirst, second, hsecond, due, hsame⟩
  · obtain rfl := provision_eq_of_project inv hprovision hother (hproject.trans hop.symm)
    exact (generation_eq_of_id distinct hbefore (fun _ => hnewest) inv outcome.generations hrow hc hp
      hcp' (hid.symm.trans hoid)).le
  · obtain rfl := provision_eq_of_project inv hprovision hother (hproject.trans hop.symm)
    obtain ⟨old, hold, next, hnext, holdp, hnextp, hoid, hnid, hgen, -⟩ :=
      inv.paired provision hprovision
    have hfrom : row.signerGeneration = old.signerGeneration :=
      generation_eq_of_id distinct hbefore hbefore inv inv hrow hold hp (holdp.trans hproject)
        (hid.symm.trans hoid.symm)
    have hto : next.signerGeneration = current.signerGeneration :=
      generation_eq_of_id distinct hbefore (fun _ => hnewest) inv outcome.generations hnext hc
        (hnextp.trans hproject) hcp' (hnid.trans (due.2.1.symm.trans hsame))
    omega

end

section

variable {start tables : PolicyTables} {newest : Nat} {steps : List RotationStep}

theorem rotationRun_append (start : PolicyTables) (prior later : List RotationStep) :
    rotationRun keys H start (prior ++ later) =
      rotationRun keys H (rotationRun keys H start prior) later := by
  unfold rotationRun
  rw [List.foldl_append]

theorem passCount_append (prior later : List RotationStep) :
    passCount (prior ++ later) = passCount prior + passCount later := by
  induction prior with
  | nil => rw [List.nil_append, passCount, Nat.zero_add]
  | cons step prior ih =>
    cases step with
    | provision projectRefId now => exact ih
    | pass clock =>
      rw [List.cons_append, passCount, passCount, ih]
      omega

theorem provisionedProjects_append (prior later : List RotationStep) :
    provisionedProjects (prior ++ later) = provisionedProjects prior ++ provisionedProjects later := by
  induction prior with
  | nil => rfl
  | cons step prior ih =>
    cases step with
    | provision projectRefId now => exact congrArg (projectRefId :: ·) ih
    | pass clock => exact ih

theorem step_generations (distinct : DistinctSenders keys H projects bound) (htwo : 2 ≤ newest)
    (inv : Generations keys H projects (fun _ => newest) tables) (step : RotationStep)
    (hnewest : newest + passCount [step] ≤ bound)
    (hprojects : ∀ p ∈ provisionedProjects [step], p ∈ projects) :
    Generations keys H projects (fun _ => newest + passCount [step])
        (step.apply keys H tables) ∧
      ∀ p g, CurrentGeneration tables p g →
        ∃ g', g ≤ g' ∧ CurrentGeneration (step.apply keys H tables) p g' := by
  cases step with
  | provision projectRefId now =>
    change Generations keys H projects (fun _ => newest) (sqlBegin _ tables).2 ∧
      ∀ p g, CurrentGeneration tables p g →
        ∃ g', g ≤ g' ∧ CurrentGeneration (sqlBegin _ tables).2 p g'
    have hproject : projectRefId ∈ projects := hprojects _ (List.mem_singleton_self _)
    have hwithin : newest ≤ bound := hnewest
    have lower := distinct.mono hwithin
    rcases sqlBegin_cases (provisionProjectMessaging keys H projectRefId now) tables with
      ⟨row, written, htx, hrun⟩ | ⟨failure, -, hrun⟩
    · rw [hrun]
      rcases inv.provision_rows lower htwo hproject htx with rfl | provisioned
      · exact ⟨inv, fun p g h => ⟨g, le_rfl, h⟩⟩
      · have invWritten := inv.provision htwo hproject provisioned
        refine ⟨invWritten, fun p g h => ⟨g, le_rfl, ?_⟩⟩
        obtain ⟨credential, hcredential, hp, hg, provision, hprovision, hproject, hid⟩ := h
        have hkept : provision ∈ written.provisions := by
          rw [provisioned.provisions]
          exact List.mem_append_left _ hprovision
        obtain ⟨current, hc, -, -, hcp, -, hcid, -, -, -⟩ := invWritten.paired provision hkept
        have hsame := generation_eq_of_id distinct (fun _ => hwithin) (fun _ => hwithin) inv
          invWritten hcredential hc hp (hcp.trans hproject) (hid.symm.trans hcid.symm)
        exact ⟨current, hc, hcp.trans hproject, hsame.symm.trans hg, provision, hkept, hproject,
          hcid.symm⟩
    · rw [hrun]
      exact ⟨inv, fun p g h => ⟨g, le_rfl, h⟩⟩
  | pass clock =>
    have outcome := pass_outcome distinct hnewest inv clock
    exact ⟨outcome.generations, fun p g h => pass_currentGeneration distinct hnewest inv outcome h⟩

/-- A step leaves a pair that was there, one that provisioning made, or one that a pass made of a
project it found due. -/
theorem step_pairs (distinct : DistinctSenders keys H projects bound) (htwo : 2 ≤ newest)
    (inv : Generations keys H projects (fun _ => newest) tables) (step : RotationStep)
    (hnewest : newest + passCount [step] ≤ bound)
    (hprojects : ∀ p ∈ provisionedProjects [step], p ∈ projects) {p : String} {ends since : Int}
    (pair : Pair (step.apply keys H tables) p ends since) :
    Pair tables p ends since ∨ ends = since + lifetime ∨ ∃ clock, step = .pass clock ∧
      since = (clock p).notBefore ∧ IsDue (clock p) p tables := by
  cases step with
  | provision projectRefId now =>
    change Pair (sqlBegin _ tables).2 p ends since at pair
    have hproject : projectRefId ∈ projects := hprojects _ (List.mem_singleton_self _)
    have hwithin : newest ≤ bound := hnewest
    have lower := distinct.mono hwithin
    rcases sqlBegin_cases (provisionProjectMessaging keys H projectRefId now) tables with
      ⟨row, written, htx, hrun⟩ | ⟨failure, -, hrun⟩
    · rw [hrun] at pair
      rcases inv.provision_rows lower htwo hproject htx with rfl | provisioned
      · exact Or.inl pair
      · rcases pair_of_provisioned inv lower htwo hproject provisioned pair with hbefore | hends
        · exact Or.inl hbefore
        · exact Or.inr (Or.inl hends)
    · rw [hrun] at pair
      exact Or.inl pair
  | pass clock =>
    rcases (pass_outcome distinct hnewest inv clock).pairs p ends since pair with
      hbefore | ⟨-, hsince, id, takes⟩
    · exact Or.inl hbefore
    · exact Or.inr (Or.inr ⟨clock, rfl, hsince, isDue_of_takes takes⟩)

theorem run_generations (steps : List RotationStep)
    (distinct : DistinctSenders keys H projects bound) (hbound : newest + passCount steps ≤ bound)
    (htwo : 2 ≤ newest) (inv : Generations keys H projects (fun _ => newest) tables)
    (hprojects : ∀ p ∈ provisionedProjects steps, p ∈ projects) :
    Generations keys H projects (fun _ => newest + passCount steps)
        (rotationRun keys H tables steps) ∧
      ∀ p g, CurrentGeneration tables p g →
        ∃ g', g ≤ g' ∧ CurrentGeneration (rotationRun keys H tables steps) p g' := by
  induction steps generalizing tables newest with
  | nil => exact ⟨inv, fun p g h => ⟨g, le_rfl, h⟩⟩
  | cons step steps ih =>
    have hcount := passCount_append [step] steps
    rw [List.singleton_append] at hcount
    have hnames := provisionedProjects_append [step] steps
    rw [List.singleton_append] at hnames
    obtain ⟨invNext, hnext⟩ := step_generations distinct htwo inv step (by omega)
      (fun p hp => hprojects p (hnames ▸ List.mem_append_left _ hp))
    obtain ⟨invLast, hlast⟩ := ih (by omega) (by omega) invNext
      (fun p hp => hprojects p (hnames ▸ List.mem_append_right _ hp))
    rw [hcount, ← Nat.add_assoc]
    refine ⟨invLast, fun p g h => ?_⟩
    obtain ⟨g', hle, hg'⟩ := hnext p g h
    obtain ⟨g'', hle', hg''⟩ := hlast p g' hg'
    exact ⟨g'', hle.trans hle', hg''⟩

theorem generations_of_empty {limit : String → Nat} (hcredentials : start.externalSenderCredentials = [])
    (hprovisions : start.provisions = []) : Generations keys H projects limit start := by
  constructor
  · intro row hrow
    rw [hcredentials] at hrow
    cases hrow
  · intro a ha
    rw [hcredentials] at ha
    cases ha
  · intro row hrow
    rw [hcredentials] at hrow
    cases hrow
  · rw [hprovisions]
    exact List.nodup_nil
  · intro row hrow
    rw [hcredentials] at hrow
    cases hrow
  · intro row hrow
    rw [hprovisions] at hrow
    cases hrow

theorem prior_generations {prior later : List RotationStep}
    (hcredentials : start.externalSenderCredentials = []) (hprovisions : start.provisions = [])
    (distinct : DistinctSenders keys H (provisionedProjects steps) (2 + passCount steps))
    (split : steps = prior ++ later) :
    Generations keys H (provisionedProjects steps) (fun _ => 2 + passCount prior)
      (rotationRun keys H start prior) := by
  have hcount := passCount_append prior later
  have hnames := provisionedProjects_append prior later
  rw [← split] at hcount hnames
  exact (run_generations prior distinct (by omega) le_rfl
    (generations_of_empty hcredentials hprovisions)
    (fun p hp => hnames ▸ List.mem_append_left _ hp)).1

/-- Whichever credential is staged has been published since the project's provisioning or since an
earlier pass that found the project due. -/
theorem prior_pairs {prior later : List RotationStep}
    (hcredentials : start.externalSenderCredentials = []) (hprovisions : start.provisions = [])
    (distinct : DistinctSenders keys H (provisionedProjects steps) (2 + passCount steps))
    (split : steps = prior ++ later) {p : String} {ends since : Int}
    (pair : Pair (rotationRun keys H start prior) p ends since) :
    ends = since + lifetime ∨ ∃ before clock middle, prior = before ++ .pass clock :: middle ∧
      since = (clock p).notBefore ∧ IsDue (clock p) p (rotationRun keys H start before) := by
  induction prior using List.reverseRecOn generalizing later with
  | nil =>
    obtain ⟨named, hnamed, -⟩ := pair
    change named ∈ start.provisions at hnamed
    rw [hprovisions] at hnamed
    cases hnamed
  | append_singleton prior step ih =>
    have hsplit : steps = prior ++ ([step] ++ later) := by rw [split, List.append_assoc]
    have hcount := passCount_append prior ([step] ++ later)
    have hcountStep := passCount_append [step] later
    have hnames := provisionedProjects_append prior ([step] ++ later)
    have hnamesStep := provisionedProjects_append [step] later
    rw [← hsplit] at hcount hnames
    have inv := prior_generations hcredentials hprovisions distinct hsplit
    rw [rotationRun_append] at pair
    rcases step_pairs distinct (by omega) inv step (by omega) (fun q hq => by
        rw [hnames, hnamesStep]
        exact List.mem_append_right _ (List.mem_append_left _ hq)) pair with
      hbefore | hends | ⟨clock, rfl, hsince, due⟩
    · rcases ih hsplit hbefore with hends | ⟨before, clock, middle, rfl, hsince, due⟩
      · exact Or.inl hends
      · exact Or.inr ⟨before, clock, middle ++ [step], by rw [List.append_assoc, List.cons_append],
          hsince, due⟩
    · exact Or.inl hends
    · exact Or.inr ⟨prior, clock, [], rfl, hsince, due⟩

structure RotationKept (keys : AuthorityDerivations) (H : HashFunction) (start : PolicyTables)
    (steps : List RotationStep) : Prop where
  kept : ∀ prior later, steps = prior ++ later → LifecycleKept (rotationRun keys H start prior)
  /-- The current generation of a project never falls, and a generation has one credential. -/
  rising : ∀ prior middle later, steps = prior ++ (middle ++ later) →
    ∀ a ∈ (rotationRun keys H start prior).externalSenderCredentials,
      ∀ b ∈ (rotationRun keys H start (prior ++ middle)).externalSenderCredentials,
        a.projectRefId = b.projectRefId →
        IsCurrent (rotationRun keys H start prior) a.projectRefId a.credentialId →
        IsCurrent (rotationRun keys H start (prior ++ middle)) b.projectRefId b.credentialId →
          a.signerGeneration ≤ b.signerGeneration ∧
            (a.signerGeneration = b.signerGeneration → a.credentialId = b.credentialId)
  lead : ∀ prior clock later, steps = prior ++ .pass clock :: later → ∀ p id,
    IsCurrent (rotationRun keys H start (prior ++ [.pass clock])) p id →
      ¬ IsCurrent (rotationRun keys H start prior) p id →
        TookOver (rotationRun keys H start prior) (clock p) p id

/-- A run from empty tables keeps the lifecycle if its passes over a due project are apart by the
lead. The times may be any times. -/
theorem rotation_keeps_publication_lead (keys : AuthorityDerivations) (H : HashFunction)
    (start : PolicyTables) (steps : List RotationStep)
    (hcredentials : start.externalSenderCredentials = []) (hprovisions : start.provisions = [])
    (distinct : DistinctSenders keys H (provisionedProjects steps) (2 + passCount steps))
    (spaced : Spaced keys H start steps) : RotationKept keys H start steps := by
  refine ⟨?_, ?_, ?_⟩
  · intro prior later split
    exact (prior_generations hcredentials hprovisions distinct split).lifecycleKept
  · intro prior middle later split a ha b hb hsame hcurrent hcurrent'
    have hcount := passCount_append prior (middle ++ later)
    have hcountMiddle := passCount_append middle later
    have hnames := provisionedProjects_append prior (middle ++ later)
    have hnamesMiddle := provisionedProjects_append middle later
    rw [← split] at hcount hnames
    have inv := prior_generations hcredentials hprovisions distinct split
    obtain ⟨invLater, hrising⟩ := run_generations middle distinct (by omega) (by omega) inv
      (fun p hp => by
        rw [hnames, hnamesMiddle]
        exact List.mem_append_right _ (List.mem_append_left _ hp))
    rw [← rotationRun_append] at invLater hrising
    obtain ⟨g, hle, hg⟩ := hrising _ _ ⟨a, ha, rfl, rfl, hcurrent⟩
    have hb' : CurrentGeneration (rotationRun keys H start (prior ++ middle)) a.projectRefId
        b.signerGeneration := ⟨b, hb, hsame.symm, rfl, hsame ▸ hcurrent'⟩
    rw [currentGeneration_unique distinct (fun _ => by omega) invLater hg hb'] at hle
    refine ⟨hle, fun hgeneration => ?_⟩
    rw [(inv.derived a ha).2.2.2.1, (invLater.derived b hb).2.2.2.1, hsame, hgeneration]
  · intro prior clock later split p id hafter hbefore
    have hcount := passCount_append prior (.pass clock :: later)
    rw [← split, passCount] at hcount
    have inv := prior_generations hcredentials hprovisions distinct split
    rw [rotationRun_append] at hafter
    have outcome := pass_outcome distinct (by omega) inv clock
    obtain ⟨-, provision, hprovision, rfl, current, hcurrent, staged, hstaged, due, rfl⟩ :=
      (outcome.current p id hafter).resolve_left hbefore
    have hlead : staged.notBefore + publicationLead ≤
        (clock provision.projectRefId).overlapAt := by
      rcases prior_pairs hcredentials hprovisions distinct split ⟨provision, hprovision, rfl,
        current, hcurrent, staged, hstaged, due.1, due.2.1, rfl, rfl⟩ with
        hends | ⟨before, earlier, middle, rfl, hsince, hdue⟩
      · have hoverlap := due.2.2.1
        rw [hends] at hoverlap
        unfold publicationLead dayMillis
        unfold lifetime overlap dayMillis at hoverlap
        omega
      · rw [hsince]
        refine spaced before earlier middle clock later ?_ _ hdue (isDue_of_takes ⟨provision,
          hprovision, rfl, current, hcurrent, staged, hstaged, due, rfl⟩)
        rw [split, List.append_assoc, List.cons_append]
    refine ⟨⟨provision, hprovision, rfl, due.2.1.symm⟩, staged, hstaged, rfl, ?_, due.2.2.2.1,
      due.2.2.2.2, hlead⟩
    exact named_project inv distinct (fun _ => by omega) hprovision hstaged (Or.inr due.2.1)

/-- Whatever the times of its passes, a run keeps the lifecycle in every state, and a project has
one current generation, which never falls. -/
theorem generations_rise_in_every_run (keys : AuthorityDerivations) (H : HashFunction)
    (start : PolicyTables) (steps : List RotationStep)
    (hcredentials : start.externalSenderCredentials = []) (hprovisions : start.provisions = [])
    (distinct : DistinctSenders keys H (provisionedProjects steps) (2 + passCount steps)) :
    (∀ prior later, steps = prior ++ later → LifecycleKept (rotationRun keys H start prior)) ∧
    ∀ prior middle later p g, steps = prior ++ (middle ++ later) →
      CurrentGeneration (rotationRun keys H start prior) p g →
        ∃ g', g ≤ g' ∧ ∀ other,
          CurrentGeneration (rotationRun keys H start (prior ++ middle)) p other ↔ other = g' := by
  refine ⟨fun prior later split =>
    (prior_generations hcredentials hprovisions distinct split).lifecycleKept, ?_⟩
  intro prior middle later p g split current
  have hcount := congrArg passCount split
  have hnames := congrArg provisionedProjects split
  rw [passCount_append, passCount_append] at hcount
  rw [provisionedProjects_append, provisionedProjects_append] at hnames
  obtain ⟨invLater, hrising⟩ := run_generations middle distinct (by omega) (by omega)
    (prior_generations hcredentials hprovisions distinct split) fun q hq =>
      hnames ▸ List.mem_append_right _ (List.mem_append_left _ hq)
  rw [← rotationRun_append] at invLater hrising
  obtain ⟨g', hle, hg'⟩ := hrising p g current
  refine ⟨g', hle, fun other => ⟨fun h => ?_, fun h => h ▸ hg'⟩⟩
  exact currentGeneration_unique distinct (fun _ => by omega) invLater h hg'

end

/-- Readings of the clock that are all the same. -/
def instantClock (now : Int) : String → PassClock := fun _ => ⟨now, now, now, now, now⟩

def sampleKeys : AuthorityDerivations where
  deriveSeed purpose scope := ((utf8 (purpose ++ scope)).reverse ++ List.replicate 32 0).take 32
  publicRaw seed := seed
  sign seed message := seed ++ message
  verify publicKey message signature := decide (signature = publicKey ++ message)

def lastBytes : HashFunction where
  digest input := (input.reverse ++ List.replicate 32 0).take 32
  length_digest input := by simp

def sampleStart : PolicyTables where
  externalSenderCredentials := []
  policyHeads := []
  mandatoryProposals := []
  sendGrantSetMembers := []
  policyHeadSigningKeys := []
  policyLogLeaves := []
  policyLogCheckpoints := []
  directoryCheckpoints := []
  policies := []
  provisions := []
  projectRefs := [⟨"project", "eip155:8453", 0⟩]

def sampleSteps (first second : Int) : List RotationStep :=
  [.provision "project" 0, .pass (instantClock (first * dayMillis)),
    .pass (instantClock (second * dayMillis))]

theorem sampleSteps_inOrder {first second : Int} (hfirst : 0 ≤ first) (hle : first ≤ second) :
    InOrder (sampleSteps first second) := by
  have hreads : ∀ now s, RotationStep.Reads (.pass (instantClock now)) s → s = now := by
    rintro now s ⟨p, hs⟩
    simpa [instantClock] using hs
  unfold InOrder sampleSteps dayMillis
  rw [List.pairwise_cons, List.pairwise_cons]
  refine ⟨?_, ?_, List.pairwise_singleton _ _⟩
  · intro later hlater s t hs ht
    obtain rfl : s = 0 := hs
    rw [List.mem_cons, List.mem_singleton] at hlater
    rcases hlater with rfl | rfl
    · rw [hreads _ _ ht]
      omega
    · rw [hreads _ _ ht]
      omega
  · intro later hlater s t hs ht
    obtain rfl := List.mem_singleton.mp hlater
    rw [hreads _ _ hs, hreads _ _ ht]
    omega

theorem sampleSteps_spaced : Spaced sampleKeys lastBytes sampleStart (sampleSteps 75 110) := by
  intro prior clock middle clock' later split p _ _
  have apart : (sampleSteps 75 110).Pairwise fun earlier later => ∀ clock clock',
      earlier = .pass clock → later = .pass clock' →
        (clock p).notBefore + publicationLead ≤ (clock' p).overlapAt := by
    unfold sampleSteps
    rw [List.pairwise_cons, List.pairwise_cons]
    refine ⟨fun _ _ _ _ h => (by cases h), ?_, List.pairwise_singleton _ _⟩
    intro second hlast clock clock' hfirst hsecond
    obtain rfl := RotationStep.pass.inj hfirst
    rw [List.mem_singleton.mp hlast] at hsecond
    obtain rfl := RotationStep.pass.inj hsecond
    change 75 * dayMillis + publicationLead ≤ 110 * dayMillis
    decide
  rw [split] at apart
  have hrest := (List.pairwise_cons.mp (List.pairwise_append.mp apart).2.1).1
  exact hrest (.pass clock') (List.mem_append_right _ List.mem_cons_self) clock clock' rfl rfl

/-- A second pass more than thirty days after the first promotes the generation that the first one
staged. -/
theorem rotation_keeps_publication_lead_spaced :
    IsCurrent (rotationRun sampleKeys lastBytes sampleStart (sampleSteps 75 110)) "project"
        (senderId sampleKeys 3 "project") ∧
      RotationKept sampleKeys lastBytes sampleStart (sampleSteps 75 110) :=
  ⟨by decide +kernel, rotation_keeps_publication_lead sampleKeys lastBytes sampleStart
    (sampleSteps 75 110) rfl rfl (by decide +kernel) sampleSteps_spaced⟩

/-- Two passes in a row on day 75: the generation that the first one staged becomes current at
once, because the generation promoted first expires with its predecessor. -/
theorem rotation_lead_lost_by_second_pass :
    InOrder (sampleSteps 75 75) ∧ sampleStart.externalSenderCredentials = [] ∧
      sampleStart.provisions = [] ∧
      DistinctSenders sampleKeys lastBytes (provisionedProjects (sampleSteps 75 75))
        (2 + passCount (sampleSteps 75 75)) ∧
      ¬ RotationKept sampleKeys lastBytes sampleStart (sampleSteps 75 75) := by
  refine ⟨sampleSteps_inOrder (by omega) le_rfl, rfl, rfl, by decide +kernel, fun kept => ?_⟩
  have hlead := kept.lead [.provision "project" 0, .pass (instantClock (75 * dayMillis))]
    (instantClock (75 * dayMillis)) [] rfl "project" (senderId sampleKeys 3 "project")
    (by decide +kernel) (by decide +kernel)
  revert hlead
  decide +kernel

/-- The two passes of day 75 promote the second and the third generation. -/
theorem generations_rise_in_every_run_late :
    ∃ g', 1 ≤ g' ∧ ∀ other, CurrentGeneration (rotationRun sampleKeys lastBytes sampleStart
      (sampleSteps 75 75)) "project" other ↔ other = g' :=
  (generations_rise_in_every_run sampleKeys lastBytes sampleStart (sampleSteps 75 75) rfl rfl
    (by decide +kernel)).2 [.provision "project" 0] _ [] "project" 1 rfl
      ⟨firstCredential sampleKeys lastBytes "project" 0, by decide +kernel⟩

end JbChat.Store.RotationSafety
