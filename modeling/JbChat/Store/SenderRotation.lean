/- source: src/production/storage/externalSenderRotation.ts, appendAuthority.ts,
     externalProposalStore.ts
   digest: The generations of a project's external senders across rotation passes. -/

import JbChat.Store.Provisioning

/-!
The database clock is read anew by every call of `delivery_db_now()`, so a project's part of a
pass carries one reading for each call. Days are days of the clock's own time zone, UTC.
-/

set_option autoImplicit false

namespace JbChat.Store.SenderRotation

open Foundation.HashTrace Foundation.Transaction Delivery.ValueObjects Tables Provisioning

section

/-- `OVERLAP` and `LIFETIME` -/
def overlap : Int := 14 * dayMillis
def lifetime : Int := 89 * dayMillis

/-- What the clock said during one project's transaction: in the two conditions of the due
query, in the two validity columns of the new credential, and when it retires. -/
structure PassClock where
  overlapAt : Int
  validAt : Int
  notBefore : Int
  expiryFrom : Int
  retireAt : Int

structure ExternalSenderRotationReport where
  examined : Nat
  promoted : Nat
  retired : Nat

variable (keys : AuthorityDerivations) (H : HashFunction)

/-- The current credential has entered its overlap window and the staged one is still valid to
take over. -/
def dueCredentials (clock : PassClock) (projectRefId : String) (tables : PolicyTables) :
    List ExternalSenderCredentialRow :=
  (tables.provisions.filter fun row => decide (row.projectRefId = projectRefId)).flatMap
    fun provision =>
      (tables.externalSenderCredentials.filter fun row => decide (
          row.credentialId = provision.currentExternalSenderCredentialId ∧
          row.expiresAt - overlap ≤ clock.overlapAt)).flatMap fun _ =>
        tables.externalSenderCredentials.filter fun row => decide (
          row.credentialId = provision.stagedExternalSenderCredentialId ∧
          row.lifecycleState = .published ∧ clock.validAt < row.expiresAt)

def rotationPurpose (generation : Nat) : String := "external-sender-gen-" ++ toString generation

def promoteStaged (clock : PassClock) (provision : ProvisionRow)
    (staged : ExternalSenderCredentialRow) (tables : PolicyTables) :
    Except Failure PolicyTables := do
  let nextGeneration := staged.signerGeneration + 1
  let purpose := rotationPurpose nextGeneration
  let tables ← insertSenderCredential (derivedCredential keys H purpose provision.projectRefId
    nextGeneration clock.notBefore (clock.expiryFrom + lifetime)) provision.policyLogCheckpointId
    tables
  .ok { tables with
    provisions := updateWhere (fun row => decide (row.projectRefId = provision.projectRefId))
      (fun row => { row with
        currentExternalSenderCredentialId := staged.credentialId
        stagedExternalSenderCredentialId := keys.stableUuid purpose provision.projectRefId })
      tables.provisions
    projectRefs := updateWhere (fun row => decide (row.projectRefId = provision.projectRefId))
      (fun row => { row with
        lastSignerGeneration := max row.lastSignerGeneration nextGeneration }) tables.projectRefs }

def isExpired (clock : PassClock) (projectRefId : String) (row : ExternalSenderCredentialRow) :
    Bool :=
  decide (row.projectRefId = projectRefId ∧ row.lifecycleState = .published ∧
    row.expiresAt ≤ clock.retireAt)

def retireExpired (clock : PassClock) (projectRefId : String) (tables : PolicyTables) :
    PolicyTables :=
  { tables with
    externalSenderCredentials := updateWhere (isExpired clock projectRefId)
      (fun row => { row with lifecycleState := .retired }) tables.externalSenderCredentials }

/-- Promote when the due query returned one row. -/
def promoteDue (clock : PassClock) (provision : ProvisionRow) (tables : PolicyTables) :
    Except Failure (Nat × PolicyTables) :=
  match onlyRow (dueCredentials clock provision.projectRefId tables) with
  | none => .ok (0, tables)
  | some staged => do
    let tables ← promoteStaged keys H clock provision staged tables
    .ok (1, tables)

/-- One project's transaction: how many credentials it promoted and retired. -/
def rotateProject (clock : PassClock) (provision : ProvisionRow) :
    Tx PolicyTables Failure (Nat × Nat) := fun tables => do
  let (promoted, tables) ← promoteDue keys H clock provision tables
  let retired := (tables.externalSenderCredentials.filter
    (isExpired clock provision.projectRefId)).length
  .ok ((promoted, retired), retireExpired clock provision.projectRefId tables)

/-- The loop of a pass; a transaction that throws ends it. -/
def rotateEach (clock : String → PassClock) : List ProvisionRow → ExternalSenderRotationReport →
    PolicyTables → Except Failure ExternalSenderRotationReport × PolicyTables
  | [], report, tables => (.ok report, tables)
  | provision :: others, report, tables =>
    match sqlBegin (rotateProject keys H (clock provision.projectRefId) provision) tables with
    | (.error failure, kept) => (.error failure, kept)
    | (.ok (promoted, retired), written) =>
      rotateEach clock others
        ⟨report.examined, report.promoted + promoted, report.retired + retired⟩ written

def rotateExternalSenderCredentials (clock : String → PassClock) (tables : PolicyTables) :
    Except Failure ExternalSenderRotationReport × PolicyTables :=
  rotateEach keys H clock tables.provisions ⟨tables.provisions.length, 0, 0⟩ tables

/-- The credentials a proposal of the project may be signed with. -/
def signerCredentials (projectRefId credentialId : String) (now : Int) (tables : PolicyTables) :
    List ExternalSenderCredentialRow :=
  tables.externalSenderCredentials.filter fun row => decide (row.credentialId = credentialId ∧
    row.projectRefId = projectRefId ∧ row.lifecycleState = .published ∧ row.notBefore ≤ now ∧
    now < row.expiresAt)

end

section

variable (keys : AuthorityDerivations) (H : HashFunction)

inductive RotationStep where
  | provision (projectRefId : String) (now : Int)
  | pass (clock : String → PassClock)

def RotationStep.apply (tables : PolicyTables) : RotationStep → PolicyTables
  | .provision projectRefId now =>
    (sqlBegin (provisionProjectMessaging keys H projectRefId now) tables).2
  | .pass clock => (rotateExternalSenderCredentials keys H clock tables).2

def rotationRun (start : PolicyTables) (steps : List RotationStep) : PolicyTables :=
  steps.foldl (RotationStep.apply keys H) start

/-- The projects a run provisions, and the passes it makes. -/
def provisionedProjects : List RotationStep → List String
  | [] => []
  | .provision projectRefId _ :: steps => projectRefId :: provisionedProjects steps
  | .pass _ :: steps => provisionedProjects steps

def passCount : List RotationStep → Nat
  | [] => 0
  | .provision _ _ :: steps => passCount steps
  | .pass _ :: steps => passCount steps + 1

/-- The purpose that the key of each generation is derived for. -/
def senderPurpose : Nat → String
  | 1 => "external-sender-current"
  | 2 => "external-sender-staged"
  | generation => rotationPurpose generation

def senderId (generation : Nat) (projectRefId : String) : String :=
  keys.stableUuid (senderPurpose generation) projectRefId

def senderFingerprint (generation : Nat) (projectRefId : String) : Bytes :=
  externalSenderFingerprint H (keys.derivedPublic (senderPurpose generation) projectRefId)

/-- The keyed hash does not collide on the ids and the keys of these projects' generations. -/
def DistinctSenders (projects : List String) (bound : Nat) : Prop :=
  ∀ p ∈ projects, ∀ q ∈ projects, ∀ g ∈ List.range' 1 bound, ∀ h ∈ List.range' 1 bound,
    senderId keys g p = senderId keys h q ∨ senderFingerprint keys H g p =
      senderFingerprint keys H h q → p = q ∧ g = h

instance (projects : List String) (bound : Nat) : Decidable (DistinctSenders keys H projects bound) :=
  inferInstanceAs (Decidable (∀ p ∈ projects, ∀ q ∈ projects, ∀ g ∈ List.range' 1 bound,
    ∀ h ∈ List.range' 1 bound, senderId keys g p = senderId keys h q ∨
      senderFingerprint keys H g p = senderFingerprint keys H h q → p = q ∧ g = h))

/-- The due query finds these rows of one provision. -/
def Due (clock : PassClock) (provision : ProvisionRow)
    (current staged : ExternalSenderCredentialRow) : Prop :=
  current.credentialId = provision.currentExternalSenderCredentialId ∧
    staged.credentialId = provision.stagedExternalSenderCredentialId ∧
    current.expiresAt - overlap ≤ clock.overlapAt ∧ staged.lifecycleState = .published ∧
    clock.validAt < staged.expiresAt

instance (clock : PassClock) (provision : ProvisionRow)
    (current staged : ExternalSenderCredentialRow) : Decidable (Due clock provision current staged) :=
  inferInstanceAs (Decidable (_ ∧ _))

/-- The publication lead of the frozen lifecycle. -/
def publicationLead : Int := 30 * dayMillis

/-- A pass finds the project due. -/
def IsDue (clock : PassClock) (projectRefId : String) (tables : PolicyTables) : Prop :=
  dueCredentials clock projectRefId tables ≠ []

/-- Two passes that find the same project due are apart by the publication lead. -/
def Spaced (start : PolicyTables) (steps : List RotationStep) : Prop :=
  ∀ prior clock middle clock' later,
    steps = prior ++ .pass clock :: (middle ++ .pass clock' :: later) →
    ∀ p, IsDue (clock p) p (rotationRun keys H start prior) →
      IsDue (clock' p) p (rotationRun keys H start (prior ++ .pass clock :: middle)) →
      (clock p).notBefore + publicationLead ≤ (clock' p).overlapAt

def IsCurrent (tables : PolicyTables) (projectRefId credentialId : String) : Prop :=
  ∃ provision ∈ tables.provisions, provision.projectRefId = projectRefId ∧
    provision.currentExternalSenderCredentialId = credentialId

def IsStaged (tables : PolicyTables) (projectRefId credentialId : String) : Prop :=
  ∃ provision ∈ tables.provisions, provision.projectRefId = projectRefId ∧
    provision.stagedExternalSenderCredentialId = credentialId

instance (tables : PolicyTables) (projectRefId credentialId : String) :
    Decidable (IsCurrent tables projectRefId credentialId) :=
  inferInstanceAs (Decidable (∃ provision ∈ tables.provisions, _ ∧ _))

instance (tables : PolicyTables) (projectRefId credentialId : String) :
    Decidable (IsStaged tables projectRefId credentialId) :=
  inferInstanceAs (Decidable (∃ provision ∈ tables.provisions, _ ∧ _))

def CurrentGeneration (tables : PolicyTables) (projectRefId : String) (generation : Nat) : Prop :=
  ∃ row ∈ tables.externalSenderCredentials, row.projectRefId = projectRefId ∧
    row.signerGeneration = generation ∧ IsCurrent tables projectRefId row.credentialId

/-- What holds of the credentials in one state. -/
structure LifecycleKept (tables : PolicyTables) : Prop where
  paired : ∀ provision ∈ tables.provisions, ∃ current ∈ tables.externalSenderCredentials,
    ∃ staged ∈ tables.externalSenderCredentials,
      current.projectRefId = provision.projectRefId ∧ staged.projectRefId = provision.projectRefId ∧
      current.credentialId = provision.currentExternalSenderCredentialId ∧
      staged.credentialId = provision.stagedExternalSenderCredentialId ∧
      staged.signerGeneration = current.signerGeneration + 1
  single : ∀ a ∈ tables.externalSenderCredentials, ∀ b ∈ tables.externalSenderCredentials,
    a.projectRefId = b.projectRefId → a.signerGeneration = b.signerGeneration → a = b
  span : ∀ row ∈ tables.externalSenderCredentials, row.expiresAt ≤ row.notBefore + 90 * dayMillis
  window : ∀ projectRefId credentialId now, ∀ row ∈ signerCredentials projectRefId credentialId now
    tables, row.notBefore ≤ now ∧ now < row.expiresAt

/-- The credential was staged, published and valid, and had been published for the lead. -/
def TookOver (tables : PolicyTables) (clock : PassClock) (projectRefId credentialId : String) :
    Prop :=
  IsStaged tables projectRefId credentialId ∧ ∃ row ∈ tables.externalSenderCredentials,
    row.credentialId = credentialId ∧ row.projectRefId = projectRefId ∧
    row.lifecycleState = .published ∧ clock.validAt < row.expiresAt ∧
    row.notBefore + publicationLead ≤ clock.overlapAt

instance (tables : PolicyTables) (clock : PassClock) (projectRefId credentialId : String) :
    Decidable (TookOver tables clock projectRefId credentialId) :=
  inferInstanceAs (Decidable (_ ∧ ∃ row ∈ tables.externalSenderCredentials, _ ∧ _))

/-- The times at which a step reads the clock, and a run whose times do not decrease. -/
def RotationStep.Reads : RotationStep → Int → Prop
  | .provision _ now, time => time = now
  | .pass clock, time => ∃ p, time ∈ [(clock p).overlapAt, (clock p).validAt, (clock p).notBefore,
      (clock p).expiryFrom, (clock p).retireAt]

def InOrder (steps : List RotationStep) : Prop :=
  steps.Pairwise fun earlier later => ∀ s t, earlier.Reads s → later.Reads t → s ≤ t

end

section

variable {keys : AuthorityDerivations} {H : HashFunction} {projectRefId : String} {now : Int}
  {tables : PolicyTables} {row staged : ExternalSenderCredentialRow} {clock : PassClock}
  {generation : Nat}

def Derived (keys : AuthorityDerivations) (H : HashFunction) (projects : List String)
    (limit : String → Nat) (rows : List ExternalSenderCredentialRow) : Prop :=
  ∀ row ∈ rows, row.projectRefId ∈ projects ∧
    1 ≤ row.signerGeneration ∧ row.signerGeneration ≤ limit row.projectRefId ∧
    row.credentialId = senderId keys row.signerGeneration row.projectRefId ∧
    row.credentialFingerprint = senderFingerprint keys H row.signerGeneration row.projectRefId

/-- Credentials are derived, and the two newest generations of a project are the ones its
provision names. -/
structure Generations (keys : AuthorityDerivations) (H : HashFunction) (projects : List String)
    (limit : String → Nat) (tables : PolicyTables) : Prop where
  derived : Derived keys H projects limit tables.externalSenderCredentials
  single : ∀ a ∈ tables.externalSenderCredentials, ∀ b ∈ tables.externalSenderCredentials,
    a.projectRefId = b.projectRefId → a.signerGeneration = b.signerGeneration → a = b
  span : ∀ row ∈ tables.externalSenderCredentials, row.expiresAt ≤ row.notBefore + 90 * dayMillis
  keyed : (tables.provisions.map ProvisionRow.projectRefId).Nodup
  owned : ∀ row ∈ tables.externalSenderCredentials,
    row.projectRefId ∈ tables.provisions.map ProvisionRow.projectRefId
  paired : ∀ provision ∈ tables.provisions, ∃ current ∈ tables.externalSenderCredentials,
    ∃ staged ∈ tables.externalSenderCredentials,
      current.projectRefId = provision.projectRefId ∧ staged.projectRefId = provision.projectRefId ∧
      current.credentialId = provision.currentExternalSenderCredentialId ∧
      staged.credentialId = provision.stagedExternalSenderCredentialId ∧
      staged.signerGeneration = current.signerGeneration + 1 ∧
      ∀ row ∈ tables.externalSenderCredentials, row.projectRefId = provision.projectRefId →
        row.signerGeneration ≤ staged.signerGeneration

theorem mem_signerCredentials {credentialId : String} :
    row ∈ signerCredentials projectRefId credentialId now tables ↔
      row ∈ tables.externalSenderCredentials ∧ row.credentialId = credentialId ∧
        row.projectRefId = projectRefId ∧ row.lifecycleState = .published ∧ row.notBefore ≤ now ∧
        now < row.expiresAt := by
  unfold signerCredentials
  rw [List.mem_filter, decide_eq_true_eq]

theorem mem_dueCredentials :
    staged ∈ dueCredentials clock projectRefId tables ↔
      ∃ provision ∈ tables.provisions, ∃ current ∈ tables.externalSenderCredentials,
        staged ∈ tables.externalSenderCredentials ∧ provision.projectRefId = projectRefId ∧
        Due clock provision current staged := by
  unfold dueCredentials Due
  simp only [List.mem_flatMap, List.mem_filter, decide_eq_true_eq]
  constructor
  · rintro ⟨provision, ⟨hmem, hproject⟩, current, ⟨hcurrent, hid, hoverlap⟩, hstaged, hsid, hpub,
      hvalid⟩
    exact ⟨provision, hmem, current, hcurrent, hstaged, hproject, hid, hsid, hoverlap, hpub, hvalid⟩
  · rintro ⟨provision, hmem, current, hcurrent, hstaged, hproject, hid, hsid, hoverlap, hpub,
      hvalid⟩
    exact ⟨provision, ⟨hmem, hproject⟩, current, ⟨hcurrent, hid, hoverlap⟩, hstaged, hsid, hpub,
      hvalid⟩

theorem insertSenderCredential_eq_ok {checkpointId : String} {written : PolicyTables}
    (h : insertSenderCredential row checkpointId tables = .ok written) :
    senderCredentialValid row = true ∧
      ((∃ other ∈ tables.externalSenderCredentials, senderCredentialsConflict row other = true) ∧
          written = tables ∨
        written = { tables with
          externalSenderCredentials := tables.externalSenderCredentials ++ [row] }) := by
  unfold insertSenderCredential at h
  obtain ⟨hvalid, h⟩ := guard_ok.mp h
  refine ⟨not_not.mp hvalid, ?_⟩
  split at h
  · rename_i hconflict
    obtain ⟨other, hmem, hother⟩ := List.any_eq_true.mp hconflict
    exact Or.inl ⟨⟨other, hmem, hother⟩, (Except.ok.inj h).symm⟩
  · obtain ⟨-, h⟩ := guard_ok.mp h
    exact Or.inr (Except.ok.inj h).symm

theorem DistinctSenders.mono {projects : List String} {larger smaller : Nat}
    (distinct : DistinctSenders keys H projects larger) (h : smaller ≤ larger) :
    DistinctSenders keys H projects smaller := by
  intro p hp q hq g hg g' hg'
  rw [List.mem_range'_1] at hg hg'
  exact distinct p hp q hq g (List.mem_range'_1.mpr (by omega)) g' (List.mem_range'_1.mpr (by omega))

section

variable {projects : List String} {limit : String → Nat} {tables : PolicyTables} {bound : Nat}
  (distinct : DistinctSenders keys H projects bound)

include distinct in
theorem row_eq_of_id {p q : String} {g h : Nat} (hp : p ∈ projects) (hq : q ∈ projects)
    (hg : 1 ≤ g ∧ g ≤ bound) (hh : 1 ≤ h ∧ h ≤ bound)
    (same : senderId keys g p = senderId keys h q ∨
      senderFingerprint keys H g p = senderFingerprint keys H h q) : p = q ∧ g = h :=
  distinct p hp q hq g (List.mem_range'_1.mpr (by omega)) h (List.mem_range'_1.mpr (by omega)) same

include distinct in
theorem insert_fresh (derived : Derived keys H projects limit tables.externalSenderCredentials)
    (hlimit : ∀ p, limit p ≤ bound) (row : ExternalSenderCredentialRow) {checkpointId : String}
    (hproject : row.projectRefId ∈ projects)
    (hgeneration : 1 ≤ row.signerGeneration ∧ row.signerGeneration ≤ bound)
    (hid : row.credentialId = senderId keys row.signerGeneration row.projectRefId)
    (hfp : row.credentialFingerprint =
      senderFingerprint keys H row.signerGeneration row.projectRefId)
    (fresh : ∀ other ∈ tables.externalSenderCredentials, other.projectRefId = row.projectRefId →
      other.signerGeneration ≠ row.signerGeneration)
    {written : PolicyTables} (h : insertSenderCredential row checkpointId tables = .ok written) :
    senderCredentialValid row = true ∧ written = { tables with
      externalSenderCredentials := tables.externalSenderCredentials ++ [row] } := by
  obtain ⟨hvalid, ⟨⟨other, hmem, hconflict⟩, -⟩ | hwritten⟩ := insertSenderCredential_eq_ok h
  · exfalso
    obtain ⟨hother, hone, hle, hoid, hofp⟩ := derived other hmem
    have hbound : 1 ≤ other.signerGeneration ∧ other.signerGeneration ≤ bound :=
      ⟨hone, hle.trans (hlimit _)⟩
    rw [senderCredentialsConflict, decide_eq_true_eq, hoid, hid, hofp, hfp] at hconflict
    have hsame : other.projectRefId = row.projectRefId ∧
        other.signerGeneration = row.signerGeneration := by
      rcases hconflict with hsame | hsame | hsame
      · exact row_eq_of_id distinct hother hproject hbound hgeneration (Or.inl hsame)
      · exact row_eq_of_id distinct hother hproject hbound hgeneration (Or.inr hsame)
      · exact hsame
    exact fresh other hmem hsame.1 hsame.2
  · exact ⟨hvalid, hwritten⟩

end

namespace Generations

variable {projects : List String} {limit : String → Nat} {tables : PolicyTables}

theorem mono {larger : String → Nat} (inv : Generations keys H projects limit tables)
    (le : ∀ p, limit p ≤ larger p) : Generations keys H projects larger tables where
  derived row hrow := by
    obtain ⟨hproject, hone, hlimit, hid, hfp⟩ := inv.derived row hrow
    exact ⟨hproject, hone, hlimit.trans (le _), hid, hfp⟩
  single := inv.single
  span := inv.span
  keyed := inv.keyed
  owned := inv.owned
  paired := inv.paired

theorem lifecycleKept (inv : Generations keys H projects limit tables) : LifecycleKept tables where
  paired provision hmem := by
    obtain ⟨current, hc, staged, hs, hcp, hsp, hcid, hsid, hgen, -⟩ := inv.paired provision hmem
    exact ⟨current, hc, staged, hs, hcp, hsp, hcid, hsid, hgen⟩
  single := inv.single
  span := inv.span
  window _ _ _ row hrow := by
    obtain ⟨-, -, -, -, hfrom, huntil⟩ := mem_signerCredentials.mp hrow
    exact ⟨hfrom, huntil⟩

theorem mapCredentials (inv : Generations keys H projects limit tables)
    {change : ExternalSenderCredentialRow → ExternalSenderCredentialRow}
    (keeps : ∀ row, change row = { row with lifecycleState := (change row).lifecycleState }) :
    Generations keys H projects limit { tables with
      externalSenderCredentials := tables.externalSenderCredentials.map change } where
  derived row hrow := by
    obtain ⟨old, hold, rfl⟩ := List.mem_map.mp hrow
    rw [keeps old]
    exact inv.derived old hold
  single a ha b hb := by
    obtain ⟨olda, hola, rfl⟩ := List.mem_map.mp ha
    obtain ⟨oldb, holb, rfl⟩ := List.mem_map.mp hb
    rw [keeps olda, keeps oldb]
    intro hproject hgeneration
    rw [inv.single olda hola oldb holb hproject hgeneration]
  span row hrow := by
    obtain ⟨old, hold, rfl⟩ := List.mem_map.mp hrow
    rw [keeps old]
    exact inv.span old hold
  keyed := inv.keyed
  owned row hrow := by
    obtain ⟨old, hold, rfl⟩ := List.mem_map.mp hrow
    rw [keeps old]
    exact inv.owned old hold
  paired provision hmem := by
    obtain ⟨current, hc, staged, hs, hcp, hsp, hcid, hsid, hgen, hnewest⟩ :=
      inv.paired provision hmem
    refine ⟨change current, List.mem_map_of_mem hc, change staged, List.mem_map_of_mem hs, ?_⟩
    rw [keeps current, keeps staged]
    refine ⟨hcp, hsp, hcid, hsid, hgen, fun row hrow hproject => ?_⟩
    obtain ⟨old, hold, rfl⟩ := List.mem_map.mp hrow
    rw [keeps old] at hproject ⊢
    exact hnewest old hold hproject

theorem retireExpired (inv : Generations keys H projects limit tables) (clock : PassClock)
    (projectRefId : String) :
    Generations keys H projects limit (retireExpired clock projectRefId tables) := by
  refine inv.mapCredentials fun row => ?_
  by_cases hexpired : isExpired clock projectRefId row = true
  · rw [if_pos hexpired]
  · rw [if_neg hexpired]

end Generations

theorem senderCredentialValid_span
    (h : senderCredentialValid row = true) : row.expiresAt ≤ row.notBefore + 90 * dayMillis := by
  rw [senderCredentialValid, decide_eq_true_eq] at h
  exact h.2.2.2.2

/-- The provision row of a project names the promoted pair from then on. -/
def renamed (projectRefId currentId stagedId : String) (row : ProvisionRow) : ProvisionRow :=
  if row.projectRefId = projectRefId then
    { row with
      currentExternalSenderCredentialId := currentId
      stagedExternalSenderCredentialId := stagedId }
  else row

theorem renamed_projectRefId (projectRefId currentId stagedId : String) (row : ProvisionRow) :
    (renamed projectRefId currentId stagedId row).projectRefId = row.projectRefId := by
  unfold renamed
  split <;> rfl

theorem promoteStaged_eq_ok {provision : ProvisionRow} {written : PolicyTables}
    (h : promoteStaged keys H clock provision staged tables = .ok written) :
    ∃ inserted, insertSenderCredential (derivedCredential keys H
        (rotationPurpose (staged.signerGeneration + 1)) provision.projectRefId
        (staged.signerGeneration + 1) clock.notBefore (clock.expiryFrom + lifetime))
        provision.policyLogCheckpointId tables = .ok inserted ∧
      written.externalSenderCredentials = inserted.externalSenderCredentials ∧
      written.provisions = inserted.provisions.map (renamed provision.projectRefId
        staged.credentialId (keys.stableUuid (rotationPurpose (staged.signerGeneration + 1))
          provision.projectRefId)) := by
  obtain ⟨inserted, hinserted, h⟩ := bind_ok.mp h
  cases h
  refine ⟨inserted, hinserted, rfl, ?_⟩
  unfold updateWhere renamed
  simp only [decide_eq_true_eq]

theorem rotateProject_eq_ok {provision : ProvisionRow} {counts : Nat × Nat} {written : PolicyTables}
    (h : rotateProject keys H clock provision tables = .ok (counts, written)) :
    ∃ promoted, written = retireExpired clock provision.projectRefId promoted ∧
      (promoted = tables ∨ ∃ staged ∈ dueCredentials clock provision.projectRefId tables,
        promoteStaged keys H clock provision staged tables = .ok promoted) := by
  unfold rotateProject at h
  obtain ⟨⟨count, promoted⟩, hpromoted, h⟩ := bind_ok.mp h
  refine ⟨promoted, (Prod.mk.inj (Except.ok.inj h)).2.symm, ?_⟩
  unfold promoteDue at hpromoted
  split at hpromoted
  · exact Or.inl (Prod.mk.inj (Except.ok.inj hpromoted)).2.symm
  · rename_i staged hdue
    obtain ⟨next, hnext, hpair⟩ := bind_ok.mp hpromoted
    cases hpair
    refine Or.inr ⟨staged, ?_, hnext⟩
    rw [onlyRow_eq_some.mp hdue]
    exact List.mem_singleton_self staged

theorem senderPurpose_of_two_lt (h : 2 < generation) :
    senderPurpose generation = rotationPurpose generation := by
  obtain ⟨k, rfl⟩ : ∃ k, generation = k + 3 := ⟨generation - 3, by omega⟩
  rfl

/-- One generation more for one project. -/
def raise (limit : String → Nat) (projectRefId : String) (p : String) : Nat :=
  if p = projectRefId then limit p + 1 else limit p

theorem le_raise (limit : String → Nat) (projectRefId p : String) :
    limit p ≤ raise limit projectRefId p := by
  unfold raise
  split <;> omega

namespace Generations

variable {projects : List String} {limit : String → Nat} {tables : PolicyTables} {bound : Nat}
  (distinct : DistinctSenders keys H projects bound)

include distinct in
theorem eq_of_id (inv : Generations keys H projects limit tables) (hlimit : ∀ p, limit p ≤ bound)
    {a b : ExternalSenderCredentialRow} (ha : a ∈ tables.externalSenderCredentials)
    (hb : b ∈ tables.externalSenderCredentials) (h : a.credentialId = b.credentialId) : a = b := by
  obtain ⟨hpa, honea, hlea, hida, -⟩ := inv.derived a ha
  obtain ⟨hpb, honeb, hleb, hidb, -⟩ := inv.derived b hb
  obtain ⟨hproject, hgeneration⟩ := row_eq_of_id distinct hpa hpb ⟨honea, hlea.trans (hlimit _)⟩
    ⟨honeb, hleb.trans (hlimit _)⟩ (Or.inl (by rw [← hida, ← hidb, h]))
  exact inv.single a ha b hb hproject hgeneration

include distinct in
theorem due_newest (inv : Generations keys H projects limit tables) (hlimit : ∀ p, limit p ≤ bound)
    {clock : PassClock} {projectRefId : String} {staged : ExternalSenderCredentialRow}
    (due : staged ∈ dueCredentials clock projectRefId tables) :
    staged ∈ tables.externalSenderCredentials ∧ staged.projectRefId = projectRefId ∧
      2 ≤ staged.signerGeneration ∧ ∀ row ∈ tables.externalSenderCredentials,
        row.projectRefId = projectRefId → row.signerGeneration ≤ staged.signerGeneration := by
  obtain ⟨provision, hmem, current, -, hstaged, rfl, -, hid, -, -, -⟩ := mem_dueCredentials.mp due
  obtain ⟨first, hfirst, second, hsecond, hfp, hsp, -, hsid, hgen, hnewest⟩ :=
    inv.paired provision hmem
  obtain rfl := inv.eq_of_id distinct hlimit hstaged hsecond (hid.trans hsid.symm)
  have hfirstOne := (inv.derived first hfirst).2.1
  exact ⟨hstaged, hsp, by omega, hnewest⟩

/-- The credential that a promotion stages. -/
def nextCredential (keys : AuthorityDerivations) (H : HashFunction) (clock : PassClock)
    (projectRefId : String) (staged : ExternalSenderCredentialRow) : ExternalSenderCredentialRow :=
  derivedCredential keys H (senderPurpose (staged.signerGeneration + 1)) projectRefId
    (staged.signerGeneration + 1) clock.notBefore (clock.expiryFrom + lifetime)

include distinct in
theorem promote_rows (inv : Generations keys H projects limit tables)
    (hlimit : ∀ p, limit p ≤ bound) {clock : PassClock} {provision : ProvisionRow}
    {staged : ExternalSenderCredentialRow} (hnext : limit provision.projectRefId + 1 ≤ bound)
    (due : staged ∈ dueCredentials clock provision.projectRefId tables) {written : PolicyTables}
    (h : promoteStaged keys H clock provision staged tables = .ok written) :
    senderCredentialValid (nextCredential keys H clock provision.projectRefId staged) = true ∧
      written.externalSenderCredentials = tables.externalSenderCredentials ++
        [nextCredential keys H clock provision.projectRefId staged] ∧
      written.provisions = tables.provisions.map (renamed provision.projectRefId
        staged.credentialId (nextCredential keys H clock provision.projectRefId
          staged).credentialId) := by
  obtain ⟨hstaged, hproject, htwo, hnewest⟩ := inv.due_newest distinct hlimit due
  obtain ⟨hmember, -, hle, -, -⟩ := inv.derived staged hstaged
  rw [hproject] at hmember hle
  obtain ⟨inserted, hinsert, hcredentials, hprovisions⟩ := promoteStaged_eq_ok h
  have hpurpose : senderPurpose (staged.signerGeneration + 1) =
      rotationPurpose (staged.signerGeneration + 1) := senderPurpose_of_two_lt (by omega)
  rw [← hpurpose] at hinsert hprovisions
  obtain ⟨hvalid, hinserted⟩ := insert_fresh distinct inv.derived hlimit
    (nextCredential keys H clock provision.projectRefId staged) hmember
    ⟨by exact Nat.le_add_left 1 _, (Nat.add_le_add_right hle 1).trans hnext⟩ rfl rfl
    (fun other hother hsame => by
      have := hnewest other hother hsame
      change other.signerGeneration ≠ staged.signerGeneration + 1
      omega) hinsert
  refine ⟨hvalid, by rw [hcredentials, hinserted], ?_⟩
  rw [hprovisions, hinserted]
  rfl

include distinct in
/-- A promotion adds the next generation and names it staged. -/
theorem promote (inv : Generations keys H projects limit tables) (hlimit : ∀ p, limit p ≤ bound)
    {clock : PassClock} {provision : ProvisionRow} {staged : ExternalSenderCredentialRow}
    (hnext : limit provision.projectRefId + 1 ≤ bound)
    (due : staged ∈ dueCredentials clock provision.projectRefId tables) {written : PolicyTables}
    (h : promoteStaged keys H clock provision staged tables = .ok written) :
    Generations keys H projects (raise limit provision.projectRefId) written := by
  obtain ⟨hstaged, hproject, -, hnewest⟩ := inv.due_newest distinct hlimit due
  obtain ⟨hmember, -, hle, -, -⟩ := inv.derived staged hstaged
  rw [hproject] at hmember hle
  obtain ⟨hvalid, hrows, hnamed⟩ := inv.promote_rows distinct hlimit hnext due h
  set next := nextCredential keys H clock provision.projectRefId staged with hnextRow
  have hkeys : written.provisions.map ProvisionRow.projectRefId =
      tables.provisions.map ProvisionRow.projectRefId := by
    rw [hnamed, List.map_map]
    exact List.map_congr_left fun row _ => renamed_projectRefId _ _ _ row
  refine ⟨?_, ?_, ?_, ?_, ?_, ?_⟩
  · intro row hrow
    rw [hrows, List.mem_append, List.mem_singleton] at hrow
    rcases hrow with hold | rfl
    · obtain ⟨hp, hone, hlow, hrest⟩ := inv.derived row hold
      exact ⟨hp, hone, hlow.trans (le_raise _ _ _), hrest⟩
    · refine ⟨hmember, Nat.le_add_left 1 _, ?_, rfl, rfl⟩
      change staged.signerGeneration + 1 ≤ raise limit provision.projectRefId provision.projectRefId
      rw [raise, if_pos rfl]
      omega
  · intro a ha b hb hsameProject hsameGeneration
    rw [hrows, List.mem_append, List.mem_singleton] at ha hb
    rcases ha with ha | rfl <;> rcases hb with hb | rfl
    · exact inv.single a ha b hb hsameProject hsameGeneration
    · have := hnewest a ha hsameProject
      change a.signerGeneration = staged.signerGeneration + 1 at hsameGeneration
      omega
    · have := hnewest b hb hsameProject.symm
      change staged.signerGeneration + 1 = b.signerGeneration at hsameGeneration
      omega
    · rfl
  · intro row hrow
    rw [hrows, List.mem_append, List.mem_singleton] at hrow
    rcases hrow with hold | rfl
    · exact inv.span row hold
    · exact senderCredentialValid_span hvalid
  · rw [hkeys]
    exact inv.keyed
  · intro row hrow
    rw [hkeys]
    rw [hrows, List.mem_append, List.mem_singleton] at hrow
    rcases hrow with hold | rfl
    · exact inv.owned row hold
    · rw [show next.projectRefId = staged.projectRefId from hproject.symm]
      exact inv.owned staged hstaged
  · intro row hrow
    rw [hnamed, List.mem_map] at hrow
    obtain ⟨old, hold, rfl⟩ := hrow
    rw [hrows]
    by_cases hsame : old.projectRefId = provision.projectRefId
    · refine ⟨staged, List.mem_append_left _ hstaged, next,
        List.mem_append_right _ (List.mem_singleton_self next), ?_⟩
      rw [renamed, if_pos hsame]
      refine ⟨hproject.trans hsame.symm, hsame.symm, rfl, rfl, rfl, fun other hother howner => ?_⟩
      rw [List.mem_append, List.mem_singleton] at hother
      rcases hother with hother | rfl
      · exact (hnewest other hother (howner.trans hsame)).trans (Nat.le_succ _)
      · exact le_rfl
    · obtain ⟨first, hfirst, second, hsecond, hfp, hsp, hcid, hsid, hgen, hmax⟩ :=
        inv.paired old hold
      refine ⟨first, List.mem_append_left _ hfirst, second, List.mem_append_left _ hsecond, ?_⟩
      rw [renamed, if_neg hsame]
      refine ⟨hfp, hsp, hcid, hsid, hgen, fun other hother howner => ?_⟩
      rw [List.mem_append, List.mem_singleton] at hother
      rcases hother with hother | rfl
      · exact hmax other hother howner
      · exact absurd howner.symm hsame

include distinct in
theorem rotateProject (inv : Generations keys H projects limit tables)
    (hlimit : ∀ p, limit p ≤ bound) {clock : PassClock} {provision : ProvisionRow}
    (hnext : limit provision.projectRefId + 1 ≤ bound) {counts : Nat × Nat} {written : PolicyTables}
    (h : rotateProject keys H clock provision tables = .ok (counts, written)) :
    Generations keys H projects (raise limit provision.projectRefId) written := by
  obtain ⟨promoted, rfl, rfl | ⟨staged, due, hpromote⟩⟩ := rotateProject_eq_ok h
  · exact (inv.retireExpired _ _).mono (le_raise _ _)
  · exact (inv.promote distinct hlimit hnext due hpromote).retireExpired _ _

end Generations

theorem adoptedCredential_eq {ownId credentialId : String} (row : ExternalSenderCredentialRow)
    (hrow : row ∈ tables.externalSenderCredentials)
    (hkey : row.projectRefId = projectRefId ∧ row.signerGeneration = generation)
    (only : ∀ other ∈ tables.externalSenderCredentials, other.projectRefId = projectRefId →
      other.signerGeneration = generation → other.credentialId = credentialId) :
    adoptedCredential projectRefId generation ownId tables = credentialId := by
  unfold adoptedCredential
  split
  · rename_i found hfound
    have hmatch := List.find?_some hfound
    rw [decide_eq_true_eq] at hmatch
    exact only found (List.mem_of_find?_eq_some hfound) hmatch.1 hmatch.2
  · rename_i hnone
    have := List.find?_eq_none.mp hnone row hrow
    rw [decide_eq_true_eq] at this
    exact absurd hkey this

/-- The two credentials of a project that provisioning makes. -/
def firstCredential (keys : AuthorityDerivations) (H : HashFunction) (projectRefId : String)
    (now : Int) : ExternalSenderCredentialRow :=
  derivedCredential keys H (senderPurpose 1) projectRefId 1 now (now + 89 * dayMillis)

def secondCredential (keys : AuthorityDerivations) (H : HashFunction) (projectRefId : String)
    (now : Int) : ExternalSenderCredentialRow :=
  derivedCredential keys H (senderPurpose 2) projectRefId 2 now (now + 89 * dayMillis)

theorem provisionSenders_fresh {projects : List String} {bound : Nat} {senders : PolicyTables}
    (distinct : DistinctSenders keys H projects bound) (hbound : 2 ≤ bound)
    (hproject : projectRefId ∈ projects)
    (derived : Derived keys H projects (fun _ => bound) tables.externalSenderCredentials)
    (fresh : ∀ row ∈ tables.externalSenderCredentials, row.projectRefId ≠ projectRefId)
    (h : provisionSenders keys H projectRefId now tables = .ok senders) :
    senders = { tables with externalSenderCredentials := tables.externalSenderCredentials ++
      [firstCredential keys H projectRefId now, secondCredential keys H projectRefId now] } := by
  obtain ⟨inserted, hinserted, h⟩ := bind_ok.mp h
  obtain ⟨-, rfl⟩ := insert_fresh distinct derived (fun _ => le_rfl)
    (firstCredential keys H projectRefId now) hproject ⟨le_rfl, by
      change 1 ≤ bound
      omega⟩ rfl rfl (fun other hother hsame => absurd hsame (fresh other hother)) hinserted
  have derivedFirst : Derived keys H projects (fun _ => bound)
      (tables.externalSenderCredentials ++ [firstCredential keys H projectRefId now]) := by
    intro row hrow
    rw [List.mem_append, List.mem_singleton] at hrow
    rcases hrow with hold | rfl
    · exact derived row hold
    · refine ⟨hproject, le_rfl, ?_, rfl, rfl⟩
      change 1 ≤ bound
      omega
  obtain ⟨-, rfl⟩ := insert_fresh distinct derivedFirst (fun _ => le_rfl)
    (secondCredential keys H projectRefId now) hproject ⟨by
      change 1 ≤ 2
      omega, hbound⟩ rfl rfl (fun other hother hsame => by
        rw [List.mem_append, List.mem_singleton] at hother
        rcases hother with hold | rfl
        · exact absurd hsame (fresh other hold)
        · change 1 ≠ 2
          omega) h
  rw [List.append_assoc]
  rfl

theorem provisionedCredential_span (purpose projectRefId : String) (generation : Nat) (now : Int) :
    (derivedCredential keys H purpose projectRefId generation now
      (now + 89 * dayMillis)).expiresAt ≤ now + 90 * dayMillis := by
  change now + 89 * dayMillis ≤ now + 90 * dayMillis
  unfold dayMillis
  omega

/-- What provisioning wrote, unless the project was provisioned before. -/
structure Provisioned (keys : AuthorityDerivations) (H : HashFunction) (projectRefId : String)
    (now : Int) (tables written : PolicyTables) (row : ProvisionRow) : Prop where
  project : row.projectRefId = projectRefId
  free : projectRefId ∉ tables.provisions.map ProvisionRow.projectRefId
  provisions : written.provisions = tables.provisions ++ [row]
  credentials : written.externalSenderCredentials = tables.externalSenderCredentials ++
    [firstCredential keys H projectRefId now, secondCredential keys H projectRefId now]
  current : row.currentExternalSenderCredentialId =
    (firstCredential keys H projectRefId now).credentialId
  staged : row.stagedExternalSenderCredentialId =
    (secondCredential keys H projectRefId now).credentialId

namespace Generations

variable {projects : List String} {tables : PolicyTables} {bound : Nat}

variable {projectRefId : String} {now : Int} {row : ProvisionRow} {written : PolicyTables}

theorem fresh_of_free (inv : Generations keys H projects (fun _ => bound) tables)
    (free : projectRefId ∉ tables.provisions.map ProvisionRow.projectRefId) :
    ∀ old ∈ tables.externalSenderCredentials, old.projectRefId ≠ projectRefId := by
  intro old hold hold'
  exact free (hold' ▸ inv.owned old hold)

theorem provision_rows (inv : Generations keys H projects (fun _ => bound) tables)
    (distinct : DistinctSenders keys H projects bound) (hbound : 2 ≤ bound)
    (hproject : projectRefId ∈ projects)
    (h : provisionProjectMessaging keys H projectRefId now tables = .ok (row, written)) :
    written = tables ∨ Provisioned keys H projectRefId now tables written row := by
  obtain ⟨-, rfl⟩ | ⟨prepared, senders, hprepared, hsenders, rfl, hrows, hprovisions, hsame, hfree⟩ :=
    provisionProjectMessaging_eq_ok h
  · exact Or.inl rfl
  have hsenderProvisions : senders.provisions = prepared.provisions := by
    obtain ⟨inserted, hinserted, hsecond⟩ := bind_ok.mp hsenders
    rcases (insertSenderCredential_eq_ok hinserted).2 with ⟨-, rfl⟩ | rfl <;>
      rcases (insertSenderCredential_eq_ok hsecond).2 with ⟨-, rfl⟩ | rfl <;> rfl
  rw [hsenderProvisions, hsame] at hprovisions hfree
  have fresh := inv.fresh_of_free hfree
  have hwrote := provisionSenders_fresh distinct hbound hproject
    (by rw [hprepared]; exact inv.derived) (by rw [hprepared]; exact fresh) hsenders
  have hcredentials : written.externalSenderCredentials = tables.externalSenderCredentials ++
      [firstCredential keys H projectRefId now, secondCredential keys H projectRefId now] := by
    rw [hrows, hwrote, ← hprepared]
  have hmem : ∀ {credential}, credential ∈ senders.externalSenderCredentials ↔
      credential ∈ tables.externalSenderCredentials ∨
        credential = firstCredential keys H projectRefId now ∨
        credential = secondCredential keys H projectRefId now := by
    intro credential
    rw [← hrows, hcredentials, List.mem_append, List.mem_cons, List.mem_singleton]
  refine Or.inr ⟨rfl, hfree, hprovisions, hcredentials, ?_, ?_⟩
  · refine adoptedCredential_eq (firstCredential keys H projectRefId now)
      (hmem.mpr (Or.inr (Or.inl rfl))) ⟨rfl, rfl⟩ fun other hother howner hgeneration => ?_
    rcases hmem.mp hother with hold | rfl | rfl
    · exact absurd howner (fresh other hold)
    · rfl
    · cases hgeneration
  · refine adoptedCredential_eq (secondCredential keys H projectRefId now)
      (hmem.mpr (Or.inr (Or.inr rfl))) ⟨rfl, rfl⟩ fun other hother howner hgeneration => ?_
    rcases hmem.mp hother with hold | rfl | rfl
    · exact absurd howner (fresh other hold)
    · cases hgeneration
    · rfl

/-- Provisioning a project starts it with generations one and two. -/
theorem provision (inv : Generations keys H projects (fun _ => bound) tables) (hbound : 2 ≤ bound)
    (hproject : projectRefId ∈ projects)
    (provisioned : Provisioned keys H projectRefId now tables written row) :
    Generations keys H projects (fun _ => bound) written := by
  obtain ⟨howner, hfree, hprovisions, hcredentials, hcurrent, hstaged⟩ := provisioned
  have fresh := inv.fresh_of_free hfree
  have hmem : ∀ {credential}, credential ∈ written.externalSenderCredentials ↔
      credential ∈ tables.externalSenderCredentials ∨
        credential = firstCredential keys H projectRefId now ∨
        credential = secondCredential keys H projectRefId now := by
    intro credential
    rw [hcredentials, List.mem_append, List.mem_cons, List.mem_singleton]
  refine ⟨?_, ?_, ?_, ?_, ?_, ?_⟩
  · intro credential hcredential
    rcases hmem.mp hcredential with hold | rfl | rfl
    · exact inv.derived credential hold
    · refine ⟨hproject, le_rfl, ?_, rfl, rfl⟩
      change 1 ≤ bound
      omega
    · exact ⟨hproject, Nat.le_add_left 1 1, hbound, rfl, rfl⟩
  · intro a ha b hb howner hgeneration
    rcases hmem.mp ha with ha | rfl | rfl <;> rcases hmem.mp hb with hb | rfl | rfl
    · exact inv.single a ha b hb howner hgeneration
    · exact absurd howner (fresh a ha)
    · exact absurd howner (fresh a ha)
    · exact absurd howner.symm (fresh b hb)
    · rfl
    · cases hgeneration
    · exact absurd howner.symm (fresh b hb)
    · cases hgeneration
    · rfl
  · intro credential hcredential
    rcases hmem.mp hcredential with hold | rfl | rfl
    · exact inv.span credential hold
    · exact provisionedCredential_span _ _ _ _
    · exact provisionedCredential_span _ _ _ _
  · rw [hprovisions, List.map_append]
    refine List.nodup_append.mpr ⟨inv.keyed, List.nodup_singleton _, fun a ha b hb heq => ?_⟩
    rw [List.mem_singleton.mp hb, howner] at heq
    exact hfree (heq ▸ ha)
  · intro credential hcredential
    rw [hprovisions, List.map_append, List.mem_append]
    rcases hmem.mp hcredential with hold | rfl | rfl
    · exact Or.inl (inv.owned credential hold)
    · exact Or.inr (List.mem_singleton.mpr howner.symm)
    · exact Or.inr (List.mem_singleton.mpr howner.symm)
  · intro named hnamed
    rw [hprovisions, List.mem_append, List.mem_singleton] at hnamed
    rcases hnamed with hold | rfl
    · obtain ⟨current, hc, staged, hs, hcp, hsp, hcid, hsid, hgen, hnewest⟩ := inv.paired named hold
      refine ⟨current, hmem.mpr (Or.inl hc), staged, hmem.mpr (Or.inl hs), hcp, hsp, hcid, hsid,
        hgen, fun other hother howner => ?_⟩
      have hother' : projectRefId ≠ named.projectRefId := fun heq =>
        hfree (heq ▸ List.mem_map_of_mem hold)
      rcases hmem.mp hother with hother | rfl | rfl
      · exact hnewest other hother howner
      · exact absurd howner hother'
      · exact absurd howner hother'
    · refine ⟨_, hmem.mpr (Or.inr (Or.inl rfl)), _, hmem.mpr (Or.inr (Or.inr rfl)), howner.symm,
        howner.symm, hcurrent.symm, hstaged.symm, rfl, fun other hother hown => ?_⟩
      rcases hmem.mp hother with hold | rfl | rfl
      · exact absurd (hown.trans howner) (fresh other hold)
      · exact Nat.le_succ 1
      · exact le_rfl

end Generations

end

end JbChat.Store.SenderRotation
