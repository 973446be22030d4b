/- source: src/production/delivery/state.ts
   digest: Which roster and recipient rows have a hash, and that their order does not matter to it. -/

import JbChat.Delivery.Fanout

set_option autoImplicit false

namespace JbChat.Delivery.RosterHash

open Foundation.HashTrace Foundation.LengthPrefix Foundation.Transaction ValueObjects Hashes
open Instants QuotaRules SnapshotParse SnapshotDigest Fanout

section

variable {α : Type} {P : α → Prop} {parse : α → Nat → Except Failure α}
  {installationId credentialId : α → String} {maximum : Nat}

theorem insertionSort_eq_of_perm {rows others : List α} {key : α → String}
    (distinct : (rows.map key).Nodup) (perm : rows.Perm others) :
    (rows.insertionSort fun left right => key left ≤ key right) =
      others.insertionSort fun left right => key left ≤ key right := by
  have hleft := List.perm_insertionSort (fun left right => key left ≤ key right) rows
  have hright := List.perm_insertionSort (fun left right => key left ≤ key right) others
  refine List.Perm.eq_of_pairwise ?_ (List.pairwise_insertionSort _ rows)
    (List.pairwise_insertionSort _ others) (hleft.trans (perm.trans hright.symm))
  intro left right hl hr hle hge
  have hmember : left ∈ rows := hleft.mem_iff.mp hl
  have hother : right ∈ rows := perm.mem_iff.mpr (hright.mem_iff.mp hr)
  exact List.inj_on_of_nodup_map distinct hmember hother (le_antisymm hle hge)

/-- What a bounded array of rows has to satisfy. -/
structure Projected (P : α → Prop) (installationId credentialId : α → String) (maximum : Nat)
    (rows : List α) : Prop where
  ceiling : 1 ≤ maximum ∧ maximum ≤ uint63Max
  inhabited : rows.length ≠ 0
  bounded : rows.length ≤ maximum ∧ rows.length ≤ recipientInstallationsHardMax
  valid : ∀ row ∈ rows, P row
  installations : (rows.map installationId).Nodup
  credentials : (rows.map credentialId).Nodup

theorem parseProjections_eq_ok
    (spec : ∀ row index parsed, parse row index = .ok parsed ↔ P row ∧ parsed = row)
    {ceilingLabel boundMessage duplicateMessage : String} {rows result : List α} :
    parseProjections parse installationId credentialId ceilingLabel boundMessage duplicateMessage
        rows maximum = .ok result ↔
      Projected P installationId credentialId maximum rows ∧
        result = rows.insertionSort fun left right => installationId left ≤ installationId right := by
  unfold parseProjections
  simp only [bind_ok, guard_ok, parsePositiveUint63_eq_ok,
    parseEach_eq_ok spec, not_or, not_not, Nat.not_lt]
  constructor
  · rintro ⟨_, ⟨hpositive, hle, rfl⟩, ⟨hnonempty, hmaximum, hhard⟩, _, ⟨hvalid, rfl⟩,
      ⟨hinstallations, hcredentials⟩, hresult⟩
    exact ⟨⟨⟨hpositive, hle⟩, hnonempty, ⟨hmaximum, hhard⟩, hvalid, hinstallations,
      hcredentials⟩, (Except.ok.inj hresult).symm⟩
  · rintro ⟨projected, rfl⟩
    exact ⟨maximum, ⟨projected.ceiling.1, projected.ceiling.2, rfl⟩, ⟨projected.inhabited,
      projected.bounded.1, projected.bounded.2⟩, rows, ⟨projected.valid, rfl⟩,
      ⟨projected.installations, projected.credentials⟩, rfl⟩

theorem Projected.perm {rows others : List α}
    (projected : Projected P installationId credentialId maximum rows) (perm : rows.Perm others) :
    Projected P installationId credentialId maximum others where
  ceiling := projected.ceiling
  inhabited := perm.length_eq ▸ projected.inhabited
  bounded := perm.length_eq ▸ projected.bounded
  valid row hrow := projected.valid row (perm.mem_iff.mpr hrow)
  installations := (perm.map installationId).nodup_iff.mp projected.installations
  credentials := (perm.map credentialId).nodup_iff.mp projected.credentials

end

section

variable {H : HashFunction} {hash : Bytes}

structure RosterRowValid (row : ApplicationAppendMlsRosterProjection) : Prop where
  conversationId : isUuidV4 row.conversationId = true
  generation : 1 ≤ row.conversationGeneration ∧ row.conversationGeneration ≤ uint63Max
  rosterVersion : row.rosterVersion ≤ uint63Max
  accountId : isUuidV4 row.accountId = true
  installationId : isUuidV4 row.installationId = true
  credentialId : isUuidV4 row.credentialId = true
  fingerprint : row.credentialFingerprint.length = 32

theorem parseMlsRosterProjection_eq_ok (row : ApplicationAppendMlsRosterProjection) (index : Nat)
    (parsed : ApplicationAppendMlsRosterProjection) :
    parseMlsRosterProjection row index = .ok parsed ↔ RosterRowValid row ∧ parsed = row := by
  unfold parseMlsRosterProjection
  rw [checked_eq_ok]
  simp only [List.forall_mem_cons, pass_conversationId, pass_positive, pass_uint63, pass_uuid,
    pass_hash, List.not_mem_nil, false_implies, implies_true, and_true]
  constructor
  · rintro ⟨⟨hconversation, hgeneration, hversion, haccount, hinstallation, hcredential,
      hfingerprint⟩, rfl⟩
    exact ⟨⟨hconversation, hgeneration, hversion, haccount, hinstallation, hcredential,
      hfingerprint⟩, rfl⟩
  · rintro ⟨valid, rfl⟩
    exact ⟨⟨valid.conversationId, valid.generation, valid.rosterVersion, valid.accountId,
      valid.installationId, valid.credentialId, valid.fingerprint⟩, rfl⟩

abbrev Hashable (rows : List ApplicationAppendMlsRosterProjection) : Prop :=
  Projected RosterRowValid (·.installationId) (·.credentialId) rows.length rows

def rosterDigest (H : HashFunction) (rows : List ApplicationAppendMlsRosterProjection) : Bytes :=
  sha256Bytes H [utf8 mlsRosterDigestDomain,
    lengthPrefixed ((rows.insertionSort fun left right =>
      left.installationId ≤ right.installationId).flatMap fun projection =>
        [utf8 projection.conversationId, utf8 projection.conversationGeneration.repr,
          utf8 projection.rosterVersion.repr, utf8 projection.accountId,
          utf8 projection.installationId, utf8 projection.credentialId,
          projection.credentialFingerprint])]

theorem rosterHash_eq_ok
    {rows : List ApplicationAppendMlsRosterProjection} :
    computeApplicationAppendMlsRosterHash H rows = .ok hash ↔
      Hashable rows ∧ hash = rosterDigest H rows := by
  unfold computeApplicationAppendMlsRosterHash parseApplicationAppendMlsRosterProjections
  rw [bind_ok]
  simp only [parseProjections_eq_ok parseMlsRosterProjection_eq_ok]
  constructor
  · rintro ⟨_, ⟨hashable, rfl⟩, h⟩
    exact ⟨hashable, (Except.ok.inj h).symm⟩
  · rintro ⟨hashable, rfl⟩
    exact ⟨_, ⟨hashable, rfl⟩, rfl⟩

theorem rosterHash_perm {rows others : List ApplicationAppendMlsRosterProjection}
    (perm : rows.Perm others) (h : computeApplicationAppendMlsRosterHash H rows = .ok hash) :
    computeApplicationAppendMlsRosterHash H others = .ok hash := by
  obtain ⟨hashable, rfl⟩ := rosterHash_eq_ok.mp h
  refine rosterHash_eq_ok.mpr ⟨?_, ?_⟩
  · have permuted := hashable.perm perm
    rwa [perm.length_eq] at permuted
  · unfold rosterDigest
    rw [insertionSort_eq_of_perm hashable.installations perm]

end

structure RecipientRowValid (row : ApplicationAppendRecipientProjection) : Prop where
  removed : ∀ position ∈ row.removedPosition, 1 ≤ position ∧ position ≤ uint63Max
  joined : 1 ≤ row.joinedPosition ∧ row.joinedPosition ≤ uint63Max
  ordered : ∀ position ∈ row.removedPosition, row.joinedPosition ≤ position
  conversationId : isUuidV4 row.conversationId = true
  generation : 1 ≤ row.conversationGeneration ∧ row.conversationGeneration ≤ uint63Max
  version : row.recipientSetVersion ≤ uint63Max
  accountId : isUuidV4 row.accountId = true
  installationId : isUuidV4 row.installationId = true
  credentialId : isUuidV4 row.credentialId = true
  fingerprint : row.credentialFingerprint.length = 32
  revocation : 1 ≤ row.credentialRevocationVersion ∧ row.credentialRevocationVersion ≤ uint63Max
  expires : isRfc3339Millis row.credentialExpiresAt = true

theorem parseRecipientProjection_eq_ok (row : ApplicationAppendRecipientProjection) (index : Nat)
    (parsed : ApplicationAppendRecipientProjection) :
    parseRecipientProjection row index = .ok parsed ↔ RecipientRowValid row ∧ parsed = row := by
  unfold parseRecipientProjection
  rw [checked_eq_ok]
  simp only [List.forall_mem_cons, pass_parseNullable, pass_positive, refuse_eq_ok,
    pass_conversationId, pass_uint63, pass_uuid, pass_hash, pass_instant, List.not_mem_nil,
    false_implies, implies_true, and_true, not_exists, not_and, Nat.not_lt]
  constructor
  · rintro ⟨⟨hremoved, hjoined, hordered, hconversation, hgeneration, hversion, haccount,
      hinstallation, hcredential, hfingerprint, hrevocation, hexpires⟩, rfl⟩
    exact ⟨⟨hremoved, hjoined, hordered, hconversation, hgeneration, hversion, haccount,
      hinstallation, hcredential, hfingerprint, hrevocation, hexpires⟩, rfl⟩
  · rintro ⟨valid, rfl⟩
    exact ⟨⟨valid.removed, valid.joined, valid.ordered, valid.conversationId, valid.generation,
      valid.version, valid.accountId, valid.installationId, valid.credentialId,
      valid.fingerprint, valid.revocation, valid.expires⟩, rfl⟩

/-- The bytes of the recipients in the order of their installations. -/
def recipientSetDigest (H : HashFunction) (rows : List ApplicationAppendRecipientProjection) :
    Bytes :=
  sha256Bytes H [utf8 recipientSetDigestDomain,
    lengthPrefixed ((rows.insertionSort fun left right =>
      left.installationId ≤ right.installationId).flatMap fun projection =>
        [utf8 projection.conversationId, utf8 projection.conversationGeneration.repr,
          utf8 projection.recipientSetVersion.repr, utf8 projection.accountId,
          utf8 projection.installationId, utf8 projection.credentialId,
          projection.credentialFingerprint, utf8 projection.credentialRevocationVersion.repr,
          utf8 projection.credentialState.text, utf8 projection.credentialExpiresAt,
          utf8 projection.joinedPosition.repr,
          encodeNullable (projection.removedPosition.map fun position => utf8 position.repr),
          utf8 projection.installationState.text])]

theorem recipientSetHash_eq_ok {H : HashFunction}
    {rows : List ApplicationAppendRecipientProjection} {hash : Bytes} :
    computeApplicationAppendRecipientSetHash H rows = .ok hash ↔
      Projected RecipientRowValid (·.installationId) (·.credentialId) rows.length rows ∧
        hash = recipientSetDigest H rows := by
  unfold computeApplicationAppendRecipientSetHash parseApplicationAppendRecipientProjections
  rw [bind_ok]
  simp only [parseProjections_eq_ok parseRecipientProjection_eq_ok]
  constructor
  · rintro ⟨_, ⟨projected, rfl⟩, h⟩
    exact ⟨projected, (Except.ok.inj h).symm⟩
  · rintro ⟨projected, rfl⟩
    exact ⟨_, ⟨projected, rfl⟩, rfl⟩

end JbChat.Delivery.RosterHash
