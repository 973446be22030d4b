/- source: src/production/witness/witnessCore.ts
   digest: What one witness call can do: when it is witnessed, and that refusals write nothing. -/

import JbChat.Witness.WitnessCore

set_option autoImplicit false

namespace JbChat.Witness.WitnessCalls

open Foundation Foundation.HashTrace
open Foundation.Transaction Delivery.ValueObjects Delivery.Hashes WitnessCore

variable {ports : WitnessPorts} {db written : WitnessDb} {now checkpointId : String}

theorem insertLeaf_eq_ok {row : LeafRow} {u : Unit} :
    insertLeaf row db = .ok (u, written) ↔
      (row.treeIndex ≤ uint63Max ∧ row.leafPayload.length ≤ 4096 ∧ row.leafHash.length = 32 ∧
        ∀ other ∈ db.leaves, ¬ (other.ns = row.ns ∧ other.treeIndex = row.treeIndex)) ∧
      written = { db with leaves := db.leaves ++ [row] } := by
  simp only [insertLeaf, Tx.get_bind, Tx.require_bind_eq_ok, Tx.modify_eq_ok, and_assoc]

theorem insertCheckpoint_eq_ok {row : CheckpointRow} {u : Unit} :
    insertCheckpoint row db = .ok (u, written) ↔
      ((1 ≤ row.treeSize ∧ row.treeSize ≤ uint63Max) ∧ row.rootHash.length = 32 ∧
        (1 ≤ (utf8 row.witnessKeyId).length ∧ (utf8 row.witnessKeyId).length ≤ 64) ∧
        row.witnessSignature.length = 64 ∧
        (∀ other ∈ db.checkpoints, other.checkpointId ≠ row.checkpointId) ∧
        ∀ other ∈ db.checkpoints, ¬ (other.ns = row.ns ∧ other.treeSize = row.treeSize)) ∧
      written = { db with checkpoints := db.checkpoints ++ [row] } := by
  simp only [insertCheckpoint, Tx.get_bind, Tx.require_bind_eq_ok, Tx.modify_eq_ok, and_assoc]

theorem insertDeliveryHead_eq_ok {row : DeliveryHeadRow} {u : Unit} :
    insertDeliveryHead row db = .ok (u, written) ↔
      ((1 ≤ row.position ∧ row.position ≤ uint63Max) ∧ row.headHash.length = 32 ∧
        ∀ other ∈ db.deliveryHeads,
          ¬ (other.conversationId = row.conversationId ∧ other.position = row.position)) ∧
      written = { db with deliveryHeads := db.deliveryHeads ++ [row] } := by
  simp only [insertDeliveryHead, Tx.get_bind, Tx.require_bind_eq_ok, Tx.modify_eq_ok, and_assoc]

def leafRow (ports : WitnessPorts) (db : WitnessDb) (ns : Namespace) (payload : Bytes)
    (now : String) : LeafRow :=
  ⟨ns, (loadLeafHashes db ns none).length, payload,
    (MerkleLog.leafHash ports.sha256 payload).value, now⟩

def checkpointRow (ports : WitnessPorts) (db : WitnessDb) (ns : Namespace) (payload : Bytes)
    (now checkpointId : String) : CheckpointRow :=
  signedCheckpoint ports ns (loadLeafHashes db ns none)
    (MerkleLog.leafHash ports.sha256 payload).value now checkpointId

/-- The database with one more leaf and its checkpoint. -/
def appended (ports : WitnessPorts) (db : WitnessDb) (ns : Namespace) (payload : Bytes)
    (now checkpointId : String) : WitnessDb :=
  { db with
    leaves := db.leaves ++ [leafRow ports db ns payload now]
    checkpoints := db.checkpoints ++ [checkpointRow ports db ns payload now checkpointId] }

/-- The constraints of the two inserts. -/
structure AppendAllowed (ports : WitnessPorts) (db : WitnessDb) (ns : Namespace) (payload : Bytes)
    (now checkpointId : String) : Prop where
  sizeBound : (loadLeafHashes db ns none).length + 1 ≤ uint63Max
  payloadBound : payload.length ≤ 4096
  leafFree : ∀ other ∈ db.leaves,
    ¬ (other.ns = ns ∧ other.treeIndex = (loadLeafHashes db ns none).length)
  rootSize : (checkpointRow ports db ns payload now checkpointId).rootHash.length = 32
  keySize : 1 ≤ (utf8 ports.witnessKeyId).length ∧ (utf8 ports.witnessKeyId).length ≤ 64
  signatureSize :
    (checkpointRow ports db ns payload now checkpointId).witnessSignature.length = 64
  idFree : ∀ other ∈ db.checkpoints, other.checkpointId ≠ checkpointId
  sizeFree : ∀ other ∈ db.checkpoints,
    ¬ (other.ns = ns ∧ other.treeSize = (loadLeafHashes db ns none).length + 1)

theorem appendAndCheckpoint_eq_ok {ns : Namespace} {payload : Bytes} {receipt : WitnessCheckpoint}
    {treeIndex : Nat} :
    appendAndCheckpoint ports ns payload now checkpointId db = .ok ((receipt, treeIndex), written) ↔
      AppendAllowed ports db ns payload now checkpointId ∧
        receipt = checkpointFromRow (checkpointRow ports db ns payload now checkpointId) ∧
        treeIndex = (loadLeafHashes db ns none).length ∧
        written = appended ports db ns payload now checkpointId := by
  simp only [appendAndCheckpoint, Tx.get_bind, Tx.bind_eq_ok, insertLeaf_eq_ok,
    insertCheckpoint_eq_ok, Tx.pure_eq_ok, Prod.mk.injEq]
  constructor
  · rintro ⟨-, -, ⟨⟨hindex, hpayload, -, hleaf⟩, rfl⟩, -, -, ⟨⟨hsize, hroot, hkey, hsig, hid, hfree⟩,
      rfl⟩, ⟨rfl, rfl⟩, rfl⟩
    exact ⟨⟨hsize.2, hpayload, hleaf, hroot, hkey, hsig, hid, hfree⟩, rfl, rfl, rfl⟩
  · rintro ⟨allowed, rfl, rfl, rfl⟩
    have hsize := allowed.sizeBound
    refine ⟨(), _, ⟨⟨by omega, allowed.payloadBound, ports.sha256.length_digest _,
      allowed.leafFree⟩, rfl⟩, (), _, ⟨⟨⟨?_, hsize⟩, allowed.rootSize, allowed.keySize,
      allowed.signatureSize, allowed.idFree, allowed.sizeFree⟩, rfl⟩, ⟨rfl, rfl⟩, rfl⟩
    exact Nat.succ_le_succ (Nat.zero_le _)

/-- The leaf recorded for the values of a submission. -/
def deliveryPayload (input : DeliverySubmission) (position : Nat) (previousHead head : Bytes) :
    Bytes :=
  deliveryLeafPayload input.conversationId position.repr previousHead head input.signingKeyId

/-- The database after a witnessed delivery submission. -/
def deliveryExtended (ports : WitnessPorts) (db : WitnessDb) (now checkpointId : String)
    (input : DeliverySubmission) (position : Nat) (previousHead head : Bytes) : WitnessDb :=
  { appended ports db .delivery (deliveryPayload input position previousHead head) now
      checkpointId with
    deliveryHeads := db.deliveryHeads ++
      [⟨input.conversationId, position, head, (loadLeafHashes db .delivery none).length⟩] }

def deliveryReceipt (ports : WitnessPorts) (db : WitnessDb) (now checkpointId : String)
    (input : DeliverySubmission) (position : Nat) (previousHead head : Bytes) :
    WitnessCheckpoint :=
  checkpointFromRow (checkpointRow ports db .delivery
    (deliveryPayload input position previousHead head) now checkpointId)

structure Extends (ports : WitnessPorts) (db : WitnessDb) (now checkpointId : String)
    (input : DeliverySubmission) (position : Nat) (previousHead head : Bytes) : Prop where
  values : CheckpointValues input.checkpointInput position previousHead head
  fresh : deliveryHeadsAt db input.conversationId position = []
  previous : expectedPrevious db input.conversationId position = some previousHead
  append : AppendAllowed ports db .delivery (deliveryPayload input position previousHead head)
    now checkpointId

/-- The submission is signed by the one registered key valid at its instant. -/
def SignedBySubmitter (ports : WitnessPorts) (db : WitnessDb) (input : DeliverySubmission) : Prop :=
  ∃ receivedAt key digest, ports.castTimestamptz input.checkpointReceivedAt = some receivedAt ∧
    onlyRow (submitterKeysAt db input.signingKeyId receivedAt) = some key ∧
    computeDeliveryLogCheckpointDigest ports.sha256 input.checkpointInput = .ok digest ∧
    ports.verifyEd25519 key.publicKey digest (Base64Url.decode input.signature) = true

theorem deliveryHeadsAt_eq_nil {conversationId : String} {position : Nat} :
    deliveryHeadsAt db conversationId position = [] ↔ ∀ other ∈ db.deliveryHeads,
      ¬ (other.conversationId = conversationId ∧ other.position = position) := by
  simp [deliveryHeadsAt, List.filter_eq_nil_iff]

section

variable {input : DeliverySubmission} {position : Nat} {previousHead head : Bytes}
  (values : CheckpointValues input.checkpointInput position previousHead head)

include values

private theorem position_eq : Nat.ofDigitChars 10 input.position.toList 0 = position := by
  have htext : input.position = position.repr := values.positionText
  rw [htext, Nat.toList_repr, Nat.ofDigitChars_ten_toDigits]

private theorem previous_eq : Base64Url.decode input.previousHeadHash = previousHead := by
  have htext : input.previousHeadHash = Base64Url.encode previousHead := values.previousText
  rw [htext, Base64Url.decode_encode]

private theorem head_eq : Base64Url.decode input.headHash = head := by
  have htext : input.headHash = Base64Url.encode head := values.headText
  rw [htext, Base64Url.decode_encode]

end

private theorem extendVerifiedDelivery_witnessed_iff {input : DeliverySubmission} {position : Nat}
    {previousHead head : Bytes} {receipt : WitnessCheckpoint}
    (values : CheckpointValues input.checkpointInput position previousHead head) :
    extendVerifiedDelivery ports now checkpointId input db = .ok (.witnessed receipt, written) ↔
      Extends ports db now checkpointId input position previousHead head ∧
        receipt = deliveryReceipt ports db now checkpointId input position previousHead head ∧
        written = deliveryExtended ports db now checkpointId input position previousHead head := by
  have htext : input.position = position.repr := values.positionText
  unfold extendVerifiedDelivery
  simp only [Tx.get_bind, position_eq values, previous_eq values, head_eq values]
  constructor
  · intro h
    cases hrow : onlyRow (deliveryHeadsAt db input.conversationId position) with
    | some row =>
      -- a stored head at the position is reported, never extended
      simp only [hrow] at h
      split_ifs at h
      · cases (Tx.pure_eq_ok.mp h).1
      · cases (Tx.pure_eq_ok.mp h).1
    | none =>
      simp only [hrow] at h
      split_ifs at h with hexpected
      · cases (Tx.pure_eq_ok.mp h).1
      · obtain ⟨⟨stored, treeIndex⟩, middle, happend, h1⟩ := Tx.bind_eq_ok.mp h
        obtain ⟨⟨⟩, final, hinsert, h2⟩ := Tx.bind_eq_ok.mp h1
        obtain ⟨allowed, rfl, rfl, rfl⟩ := appendAndCheckpoint_eq_ok.mp happend
        obtain ⟨⟨-, -, hfree⟩, rfl⟩ := insertDeliveryHead_eq_ok.mp hinsert
        obtain ⟨hreceipt, rfl⟩ := Tx.pure_eq_ok.mp h2
        rw [htext] at allowed hreceipt ⊢
        refine ⟨⟨values, deliveryHeadsAt_eq_nil.mpr hfree, not_not.mp hexpected, allowed⟩, ?_, rfl⟩
        exact DeliveryExtensionResult.witnessed.inj hreceipt
  · rintro ⟨⟨-, hfresh, hexpected, allowed⟩, rfl, rfl⟩
    simp only [hfresh, onlyRow, hexpected, ne_eq, not_true_eq_false, if_false]
    rw [htext]
    refine Tx.bind_eq_ok.mpr ⟨_, _, appendAndCheckpoint_eq_ok.mpr ⟨allowed, rfl, rfl, rfl⟩, ?_⟩
    refine Tx.bind_eq_ok.mpr ⟨(), _, insertDeliveryHead_eq_ok.mpr ⟨⟨⟨values.positive,
      values.bounded⟩, values.headSize, deliveryHeadsAt_eq_nil.mp hfresh⟩, rfl⟩, ?_⟩
    exact Tx.pure_eq_ok.mpr ⟨rfl, rfl⟩

theorem extendDelivery_witnessed_iff {input : DeliverySubmission} {receipt : WitnessCheckpoint} :
    extendDelivery ports now checkpointId input db = .ok (.witnessed receipt, written) ↔
      SignedBySubmitter ports db input ∧ ∃ position previousHead head,
        Extends ports db now checkpointId input position previousHead head ∧
        receipt = deliveryReceipt ports db now checkpointId input position previousHead head ∧
        written = deliveryExtended ports db now checkpointId input position previousHead head := by
  unfold extendDelivery
  rw [Tx.get_bind, Tx.lift_bind_eq_ok]
  constructor
  · rintro ⟨receivedAt, hcast, h⟩
    cases hkey : onlyRow (submitterKeysAt db input.signingKeyId receivedAt) with
    | none =>
      simp only [hkey] at h
      cases (Tx.pure_eq_ok.mp h).1
    | some key =>
      simp only [hkey] at h
      obtain ⟨digest, hdigest, h1⟩ := Tx.lift_bind_eq_ok.mp h
      split_ifs at h1 with hverify
      · obtain ⟨position, previousHead, head, values, -⟩ :=
          computeDeliveryLogCheckpointDigest_eq_ok.mp hdigest
        have hinstant : ports.castTimestamptz input.checkpointReceivedAt = some receivedAt := by
          unfold castOr at hcast
          split at hcast
          · rename_i instant hsome
            rw [hsome, Except.ok.inj hcast]
          · cases hcast
        exact ⟨⟨receivedAt, key, digest, hinstant, hkey, hdigest, hverify⟩, position, previousHead,
          head, (extendVerifiedDelivery_witnessed_iff values).mp h1⟩
      · cases (Tx.pure_eq_ok.mp h1).1
  · rintro ⟨⟨receivedAt, key, digest, hinstant, hkey, hdigest, hverify⟩, position, previousHead,
      head, extension, hreceipt, hwritten⟩
    refine ⟨receivedAt, by rw [hinstant]; rfl, ?_⟩
    simp only [hkey]
    refine Tx.lift_bind_eq_ok.mpr ⟨digest, hdigest, ?_⟩
    rw [if_pos hverify]
    exact (extendVerifiedDelivery_witnessed_iff extension.values).mpr
      ⟨extension, hreceipt, hwritten⟩

theorem extendDelivery_refused {input : DeliverySubmission} {result : DeliveryExtensionResult}
    (h : extendDelivery ports now checkpointId input db = .ok (result, written))
    (refused : ∀ receipt, result ≠ .witnessed receipt) : written = db := by
  unfold extendDelivery at h
  rw [Tx.get_bind, Tx.lift_bind_eq_ok] at h
  obtain ⟨receivedAt, -, h⟩ := h
  cases hkey : onlyRow (submitterKeysAt db input.signingKeyId receivedAt) with
  | none =>
    simp only [hkey] at h
    exact (Tx.pure_eq_ok.mp h).2
  | some key =>
    simp only [hkey] at h
    obtain ⟨digest, -, h⟩ := Tx.lift_bind_eq_ok.mp h
    split_ifs at h
    · unfold extendVerifiedDelivery at h
      rw [Tx.get_bind] at h
      cases hrow : onlyRow (deliveryHeadsAt db input.conversationId
          (Nat.ofDigitChars 10 input.position.toList 0)) with
      | some row =>
        simp only [hrow] at h
        split_ifs at h
        · exact (Tx.pure_eq_ok.mp h).2
        · exact (Tx.pure_eq_ok.mp h).2
      | none =>
        simp only [hrow] at h
        split_ifs at h
        · exact (Tx.pure_eq_ok.mp h).2
        · obtain ⟨⟨receipt, treeIndex⟩, middle, -, h⟩ := Tx.bind_eq_ok.mp h
          obtain ⟨⟨⟩, final, -, h⟩ := Tx.bind_eq_ok.mp h
          exact absurd (Tx.pure_eq_ok.mp h).1 (refused receipt)
    · exact (Tx.pure_eq_ok.mp h).2

theorem extendDelivery_continues {input : DeliverySubmission} {result : DeliveryExtensionResult}
    {position : Nat} {previousHead head : Bytes}
    (values : CheckpointValues input.checkpointInput position previousHead head)
    (signed : SignedBySubmitter ports db input)
    (fresh : deliveryHeadsAt db input.conversationId position = [])
    (previous : expectedPrevious db input.conversationId position = some previousHead)
    (h : extendDelivery ports now checkpointId input db = .ok (result, written)) :
    ∃ receipt, result = .witnessed receipt := by
  obtain ⟨receivedAt, key, digest, hinstant, hkey, hdigest, hverify⟩ := signed
  unfold extendDelivery at h
  simp only [Tx.get_bind, Tx.lift_bind_eq_ok, hinstant, castOr, Except.ok.injEq] at h
  obtain ⟨_, rfl, h⟩ := h
  simp only [hkey, Tx.lift_bind_eq_ok, hdigest, Except.ok.injEq] at h
  obtain ⟨_, rfl, h⟩ := h
  rw [if_pos hverify] at h
  unfold extendVerifiedDelivery at h
  simp only [Tx.get_bind, position_eq values, previous_eq values, fresh, onlyRow, previous, ne_eq,
    not_true_eq_false, if_false] at h
  obtain ⟨⟨receipt, treeIndex⟩, middle, -, h⟩ := Tx.bind_eq_ok.mp h
  obtain ⟨⟨⟩, final, -, h⟩ := Tx.bind_eq_ok.mp h
  exact ⟨receipt, (Tx.pure_eq_ok.mp h).1⟩

theorem extendDelivery_answers {input : DeliverySubmission} {position : Nat}
    {previousHead head : Bytes}
    (values : CheckpointValues input.checkpointInput position previousHead head)
    (instant : (ports.castTimestamptz input.checkpointReceivedAt).isSome = true)
    (stale : ¬ SignedBySubmitter ports db input ∨
      ∃ row, deliveryHeadsAt db input.conversationId position = [row]) :
    ∃ result, extendDelivery ports now checkpointId input db = .ok (result, db) := by
  obtain ⟨receivedAt, hinstant⟩ := Option.isSome_iff_exists.mp instant
  unfold extendDelivery
  simp only [Tx.get_bind, Tx.lift_bind_eq_ok, hinstant, castOr, Except.ok.injEq,
    exists_eq_left']
  cases hkey : onlyRow (submitterKeysAt db input.signingKeyId receivedAt) with
  | none => exact ⟨_, rfl⟩
  | some key =>
    have hdigest := computeDeliveryLogCheckpointDigest_eq_ok (H := ports.sha256).mpr
      ⟨position, previousHead, head, values, rfl⟩
    simp only [Tx.lift_bind_eq_ok, hdigest, Except.ok.injEq, exists_eq_left']
    split_ifs with hverify
    · rcases stale with unsigned | ⟨row, hrow⟩
      · exact absurd ⟨receivedAt, key, _, hinstant, hkey, hdigest, hverify⟩ unsigned
      · unfold extendVerifiedDelivery
        simp only [Tx.get_bind, position_eq values, hrow, onlyRow]
        split_ifs
        · exact ⟨_, rfl⟩
        · exact ⟨_, rfl⟩
    · exact ⟨_, rfl⟩

/-- The database after a witnessed chain submission. -/
def chainExtended (ports : WitnessPorts) (db : WitnessDb) (now checkpointId : String)
    (ns : ChainNamespace) (input : ChainSubmission) (upstream : String) : WitnessDb :=
  { appended ports db ns.toNamespace (chainLeafPayload input) now checkpointId with
    chainHeads := Function.update db.chainHeads ns.toNamespace ⟨some upstream, now⟩ }

private theorem castUuidOr_eq_ok {cast : Option String} {stored : String} :
    castUuidOr cast = .ok stored ↔ cast = some stored := by
  cases cast with
  | none => simp [castUuidOr]
  | some text => simp [castUuidOr]

theorem extendChain_witnessed_iff {ns : ChainNamespace} {input : ChainSubmission}
    {receipt : WitnessCheckpoint} :
    extendChain ports now checkpointId ns input db = .ok (.witnessed receipt, written) ↔
      (db.chainHeads ns.toNamespace).lastUpstreamCheckpointId = input.previousCheckpointId ∧
      AppendAllowed ports db ns.toNamespace (chainLeafPayload input) now checkpointId ∧
      ∃ upstream, ports.castUuid input.checkpointId = some upstream ∧
        receipt = checkpointFromRow (checkpointRow ports db ns.toNamespace (chainLeafPayload input)
          now checkpointId) ∧
        written = chainExtended ports db now checkpointId ns input upstream := by
  unfold extendChain
  rw [Tx.get_bind]
  constructor
  · intro h
    split_ifs at h with hhead
    · cases (Tx.pure_eq_ok.mp h).1
    · obtain ⟨⟨stored, treeIndex⟩, middle, happend, h1⟩ := Tx.bind_eq_ok.mp h
      obtain ⟨upstream, hupstream, h2⟩ := Tx.lift_bind_eq_ok.mp h1
      obtain ⟨allowed, rfl, rfl, rfl⟩ := appendAndCheckpoint_eq_ok.mp happend
      obtain ⟨hreceipt, rfl⟩ := Tx.pure_eq_ok.mp h2
      exact ⟨not_not.mp hhead, allowed, upstream, castUuidOr_eq_ok.mp hupstream,
        ChainExtensionResult.witnessed.inj hreceipt, rfl⟩
  · rintro ⟨hhead, allowed, upstream, hupstream, rfl, rfl⟩
    rw [if_neg (not_not.mpr hhead)]
    refine Tx.bind_eq_ok.mpr ⟨_, _, appendAndCheckpoint_eq_ok.mpr ⟨allowed, rfl, rfl, rfl⟩, ?_⟩
    refine Tx.lift_bind_eq_ok.mpr ⟨upstream, castUuidOr_eq_ok.mpr hupstream, ?_⟩
    exact Tx.pure_eq_ok.mpr ⟨rfl, rfl⟩

theorem extendChain_equivocation_iff {ns : ChainNamespace} {input : ChainSubmission}
    {expected submitted : Option String} :
    extendChain ports now checkpointId ns input db =
        .ok (.equivocation expected submitted, written) ↔
      (db.chainHeads ns.toNamespace).lastUpstreamCheckpointId ≠ input.previousCheckpointId ∧
      expected = (db.chainHeads ns.toNamespace).lastUpstreamCheckpointId ∧
      submitted = input.previousCheckpointId ∧ written = db := by
  unfold extendChain
  rw [Tx.get_bind]
  constructor
  · intro h
    split_ifs at h with hhead
    · obtain ⟨hanswer, rfl⟩ := Tx.pure_eq_ok.mp h
      obtain ⟨rfl, rfl⟩ := ChainExtensionResult.equivocation.inj hanswer
      exact ⟨hhead, rfl, rfl, rfl⟩
    · obtain ⟨⟨stored, treeIndex⟩, middle, -, h1⟩ := Tx.bind_eq_ok.mp h
      obtain ⟨upstream, -, h2⟩ := Tx.lift_bind_eq_ok.mp h1
      cases (Tx.pure_eq_ok.mp h2).1
  · rintro ⟨hhead, rfl, rfl, rfl⟩
    rw [if_pos hhead]
    exact Tx.pure_eq_ok.mpr ⟨rfl, rfl⟩

theorem extendChain_not_rejected {ns : ChainNamespace} {input : ChainSubmission}
    {reasonCode : String} :
    extendChain ports now checkpointId ns input db ≠ .ok (.rejected reasonCode, written) := by
  intro h
  unfold extendChain at h
  rw [Tx.get_bind] at h
  split_ifs at h
  · cases (Tx.pure_eq_ok.mp h).1
  · obtain ⟨⟨stored, treeIndex⟩, middle, -, h1⟩ := Tx.bind_eq_ok.mp h
    obtain ⟨upstream, -, h2⟩ := Tx.lift_bind_eq_ok.mp h1
    cases (Tx.pure_eq_ok.mp h2).1

end JbChat.Witness.WitnessCalls
