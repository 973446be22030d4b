/- source: src/production/delivery/hashes.ts, idempotency.ts, ports.ts
   digest: The byte strings behind the digests of the log and of requests. -/

import JbChat.Foundation.Traversal
import JbChat.Store.AppendRequests

/-!
Each digest hashes a domain and a body. No two domains agree in their first nine bytes, so
a byte string names the function that hashed it.
-/

set_option autoImplicit false

namespace JbChat.Store.DigestInputs

open Foundation Foundation.HashTrace Foundation.LengthPrefix Foundation.Transaction
open Foundation.Traversal Delivery.ValueObjects Delivery.Hashes Delivery.Quota Delivery.QuotaRules
open Delivery.SnapshotParse Delivery.SnapshotDigest Delivery.EnvelopeLog AppendRequests

/-- `copyBytes` with its default bound -/
def copyBytes (value : Bytes) (label : String) : Except Failure Bytes :=
  if value.length > defaultMaxBase64UrlBytes then
    .error (.invalid (label ++ " must be an intrinsic, fixed, owned byte array."))
  else .ok value

def u32Max : Nat := 2 ^ 32 - 1

def canonicalLengthPrefixed (values : List Bytes) : Except Failure Bytes := do
  let fields ← values.mapM fun value => copyBytes value "length-prefixed bytes"
  if (lengthPrefixed fields).length > u32Max then
    .error (.invalid "canonical byte encoding exceeds u32 length capacity.")
  else .ok (lengthPrefixed fields)

/-- The byte string that `sha256Bytes` hashes. -/
def sha256Input (parts : List Bytes) : Except Failure Bytes := do
  let copies ← parts.mapM fun part => copyBytes part "SHA-256 input"
  .ok copies.flatten

def parseCanonicalBase64UrlBytes (value label : String) (minBytes maxBytes : Nat) :
    Except Failure Bytes := do
  let parsed ← parseCanonicalBase64Url value label minBytes maxBytes
  .ok (Base64Url.decode parsed)

inductive FenceResolutionStatus where
  | signed (checkpointSignature signedAt : String)
  | cancelled (cancellationStatus cancelledAt : String)

def FenceResolutionStatus.text : FenceResolutionStatus → String
  | .signed _ _ => "signed"
  | .cancelled _ _ => "cancelled"

/-- A resolution of the signer. The profile, which is constant, is left out. -/
structure ApplicationAppendSignerFenceResolution where
  realmId : String
  conversationGeneration : String
  releaseProfileId : String
  releaseTrustRootDigest : String
  conversationId : String
  position : String
  previousHeadHash : String
  headHash : String
  signingKeyId : String
  checkpointDigest : String
  checkpointReceivedAt : String
  pendingIntentDigest : String
  fenceGeneration : String
  fenceTokenHash : String
  pendingExpiresAt : String
  admissionStartedAt : String
  status : FenceResolutionStatus
  fenceRecordKeyProfile : String
  fenceRecordDigest : String
  fenceRecordSigningKeyId : String
  fenceRecordSignature : String

def applicationAppendSignerFenceRecordDigestDomain : String :=
  "jb-msg-application-append-signer-fence-record/v1"

def fenceStatusFields : FenceResolutionStatus → Except Failure (List Bytes)
  | .signed checkpointSignature signedAt => do
    let signature ← parseCanonicalBase64UrlBytes checkpointSignature
      "fenced checkpoint signature" 64 64
    .ok [signature, utf8 signedAt]
  | .cancelled cancellationStatus cancelledAt =>
    .ok [utf8 cancellationStatus, utf8 cancelledAt]

def fenceRecordInput (resolution : ApplicationAppendSignerFenceResolution) :
    Except Failure Bytes := do
  let statusFields ← fenceStatusFields resolution.status
  let releaseTrustRootDigest ← decodeHash32 resolution.releaseTrustRootDigest "hash"
  let previousHeadHash ← decodeHash32 resolution.previousHeadHash "hash"
  let headHash ← decodeHash32 resolution.headHash "hash"
  let checkpointDigest ← decodeHash32 resolution.checkpointDigest "hash"
  let pendingIntentDigest ← decodeHash32 resolution.pendingIntentDigest "hash"
  let fenceTokenHash ← decodeHash32 resolution.fenceTokenHash "hash"
  let body ← canonicalLengthPrefixed ([utf8 resolution.realmId,
    utf8 resolution.conversationGeneration, utf8 resolution.releaseProfileId,
    releaseTrustRootDigest, utf8 resolution.conversationId, utf8 resolution.position,
    previousHeadHash, headHash, utf8 resolution.signingKeyId, checkpointDigest,
    utf8 resolution.checkpointReceivedAt, pendingIntentDigest, utf8 resolution.fenceGeneration,
    fenceTokenHash, utf8 resolution.pendingExpiresAt, utf8 resolution.admissionStartedAt,
    utf8 resolution.status.text] ++ statusFields ++
    [utf8 resolution.fenceRecordKeyProfile, utf8 resolution.fenceRecordSigningKeyId])
  sha256Input [utf8 applicationAppendSignerFenceRecordDigestDomain, body]

def computeApplicationAppendSignerFenceRecordDigest (H : HashFunction)
    (resolution : ApplicationAppendSignerFenceResolution) : Except Failure String := do
  let input ← fenceRecordInput resolution
  .ok (Base64Url.encode (H.digest input))

/-- A resolution without what its digest cannot cover: itself, and the signature over it. -/
def ApplicationAppendSignerFenceResolution.unsigned
    (resolution : ApplicationAppendSignerFenceResolution) :
    ApplicationAppendSignerFenceResolution :=
  { resolution with fenceRecordDigest := "", fenceRecordSignature := "" }

def envelopeLeafFields (input : EnvelopeLeafInput) : List Bytes :=
  [utf8 input.conversationId, utf8 input.position.repr, utf8 input.envelopeId,
    utf8 input.envelopeClass.text, utf8 input.sender.type, encodeEnvelopeSenderFields input.sender,
    utf8 input.epoch.repr, utf8 input.rosterVersion.repr, utf8 input.contentType.text,
    input.envelopeSha256, utf8 input.receivedAt]

def envelopeLeafInput (input : EnvelopeLeafInput) : Except Failure Bytes := do
  let parsed ← parseEnvelopeLeafInput input
  .ok [utf8 envelopeLeafHashDomain, lengthPrefixed (envelopeLeafFields parsed)].flatten

def logHeadInput (previousHeadHash leafHash : Bytes) : Except Failure Bytes := do
  let previous ← checkHash32 previousHeadHash "previousHeadHash"
  let leaf ← checkHash32 leafHash "leafHash"
  .ok [utf8 logHeadHashDomain, previous, leaf].flatten

def checkpointInput (input : DeliveryLogCheckpointInput) : Except Failure Bytes := do
  let parsed ← parseDeliveryLogCheckpointInput input
  let previousHeadHash ← decodeHash32 parsed.previousHeadHash "previousHeadHash"
  let headHash ← decodeHash32 parsed.headHash "headHash"
  .ok [utf8 deliveryLogCheckpointDigestDomain,
    lengthPrefixed [utf8 parsed.conversationId, utf8 parsed.position, previousHeadHash, headHash,
      utf8 parsed.signingKeyId]].flatten

/-- The message is copied and framed before the record hash is read. -/
def externalProposalInput (publicMessage authorizationRecordHash : Bytes) :
    Except Failure Bytes := do
  let message ← copyBytes publicMessage "publicMessage"
  let framed ← canonicalLengthPrefixed [message]
  let recordHash ← checkHash32 authorizationRecordHash "authorizationRecordHash"
  sha256Input [utf8 externalProposalHashDomain, framed, recordHash]

def idempotencyRequestInput (input : IdempotencyRequestCommitmentInput) :
    Except Failure Bytes := do
  let parsed ← parseIdempotencyRequestCommitmentInput input
  .ok (commitmentInput parsed)

/-- An input of one of the six functions. -/
inductive DigestInput where
  | envelopeLeaf (input : EnvelopeLeafInput)
  | logHead (previousHeadHash leafHash : Bytes)
  | deliveryLogCheckpoint (input : DeliveryLogCheckpointInput)
  | externalProposal (publicMessage authorizationRecordHash : Bytes)
  | idempotencyRequest (input : IdempotencyRequestCommitmentInput)
  | fenceRecord (resolution : ApplicationAppendSignerFenceResolution)

def DigestInput.hashed : DigestInput → Except Failure Bytes
  | .envelopeLeaf input => envelopeLeafInput input
  | .logHead previousHeadHash leafHash => logHeadInput previousHeadHash leafHash
  | .deliveryLogCheckpoint input => checkpointInput input
  | .externalProposal publicMessage authorizationRecordHash =>
    externalProposalInput publicMessage authorizationRecordHash
  | .idempotencyRequest input => idempotencyRequestInput input
  | .fenceRecord resolution => fenceRecordInput resolution

def DigestInput.unsigned : DigestInput → DigestInput
  | .fenceRecord resolution => .fenceRecord resolution.unsigned
  | input => input

/-- The digest of an input, by its own function. A proposal is copied within the default
bound before it is hashed. -/
def DigestInput.digest (H : HashFunction) : DigestInput → Except Failure String
  | .envelopeLeaf input => Base64Url.encode <$> computeEnvelopeLeafHash H input
  | .logHead previousHeadHash leafHash =>
    Base64Url.encode <$> computeLogHeadHash H previousHeadHash leafHash
  | .deliveryLogCheckpoint input =>
    Base64Url.encode <$> computeDeliveryLogCheckpointDigest H input
  | .externalProposal publicMessage authorizationRecordHash => do
    let message ← copyBytes publicMessage "publicMessage"
    let framed ← canonicalLengthPrefixed [message]
    let digest ← computeExternalProposalHash H message authorizationRecordHash
    let _ ← copyBytes framed "SHA-256 input"
    .ok (Base64Url.encode digest)
  | .idempotencyRequest input =>
    Base64Url.encode <$> computeIdempotencyRequestCommitment H input
  | .fenceRecord resolution => computeApplicationAppendSignerFenceRecordDigest H resolution

section

variable {label : String} {bytes : Bytes}

theorem copyBytes_eq_ok {value copied : Bytes} :
    copyBytes value label = .ok copied ↔
      value.length ≤ defaultMaxBase64UrlBytes ∧ copied = value := by
  unfold copyBytes
  split_ifs with h
  · exact ⟨fun hcopied => (by cases hcopied), fun hcopied => absurd hcopied.1 (by omega)⟩
  · rw [Except.ok.injEq]
    exact ⟨fun hcopied => ⟨by omega, hcopied.symm⟩, fun hcopied => hcopied.2.symm⟩

theorem copies_eq_ok {values copies : List Bytes} :
    values.mapM (fun value => copyBytes value label) = .ok copies ↔
      (∀ value ∈ values, value.length ≤ defaultMaxBase64UrlBytes) ∧ copies = values := by
  rw [mapM_eq_ok]
  induction values generalizing copies with
  | nil => simp only [List.forall₂_nil_left_iff, List.not_mem_nil, false_implies, implies_true,
      true_and]
  | cons value values ih =>
    rw [List.forall_mem_cons]
    constructor
    · rintro (_ | ⟨hvalue, hvalues⟩)
      obtain ⟨hshort, rfl⟩ := copyBytes_eq_ok.mp hvalue
      obtain ⟨hrest, rfl⟩ := ih.mp hvalues
      exact ⟨⟨hshort, hrest⟩, rfl⟩
    · rintro ⟨⟨hshort, hrest⟩, rfl⟩
      exact .cons (copyBytes_eq_ok.mpr ⟨hshort, rfl⟩) (ih.mpr ⟨hrest, rfl⟩)

theorem canonicalLengthPrefixed_eq_ok {values : List Bytes}
    (h : canonicalLengthPrefixed values = .ok bytes) :
    bytes = lengthPrefixed values ∧ ∀ value ∈ values, Sized value := by
  obtain ⟨fields, hfields, hlength⟩ := bind_ok.mp h
  obtain ⟨hshort, rfl⟩ := copies_eq_ok.mp hfields
  split_ifs at hlength with hlong
  refine ⟨(Except.ok.inj hlength).symm, fun value hvalue => ?_⟩
  have hvalue := hshort value hvalue
  unfold defaultMaxBase64UrlBytes at hvalue
  unfold Sized
  omega

theorem sha256Input_eq_ok {parts : List Bytes} :
    sha256Input parts = .ok bytes ↔
      (∀ part ∈ parts, part.length ≤ defaultMaxBase64UrlBytes) ∧ bytes = parts.flatten := by
  constructor
  · intro h
    obtain ⟨copies, hcopies, hbytes⟩ := bind_ok.mp h
    obtain ⟨hshort, rfl⟩ := copies_eq_ok.mp hcopies
    exact ⟨hshort, (Except.ok.inj hbytes).symm⟩
  · rintro ⟨hshort, rfl⟩
    exact bind_ok.mpr ⟨parts, copies_eq_ok.mpr ⟨hshort, rfl⟩, rfl⟩

end

section

variable {H : HashFunction}

theorem externalProposal_digest (publicMessage authorizationRecordHash : Bytes) :
    (DigestInput.externalProposal publicMessage authorizationRecordHash).digest H =
      (fun bytes => Base64Url.encode (H.digest bytes)) <$>
        externalProposalInput publicMessage authorizationRecordHash := by
  simp only [DigestInput.digest, externalProposalInput, computeExternalProposalHash, map_bind]
  cases copied : copyBytes publicMessage "publicMessage" with
  | error e => rfl
  | ok message =>
    change (canonicalLengthPrefixed [message] >>= _) = (canonicalLengthPrefixed [message] >>= _)
    cases framing : canonicalLengthPrefixed [message] with
    | error e => rfl
    | ok framed =>
      change (checkHash32 _ _ >>= _) >>= _ = (checkHash32 _ _ >>= _)
      cases reading : checkHash32 authorizationRecordHash "authorizationRecordHash" with
      | error e => rfl
      | ok recordHash =>
        obtain ⟨rfl, -⟩ := canonicalLengthPrefixed_eq_ok framing
        obtain ⟨hsize, rfl⟩ := checkHash32_eq_ok.mp reading
        have domain : copyBytes (utf8 externalProposalHashDomain) "SHA-256 input" =
            .ok (utf8 externalProposalHashDomain) := by
          exact copyBytes_eq_ok.mpr ⟨by decide, rfl⟩
        have hash : copyBytes recordHash "SHA-256 input" = .ok recordHash := by
          refine copyBytes_eq_ok.mpr ⟨?_, rfl⟩
          unfold defaultMaxBase64UrlBytes
          omega
        change _ = _ <$> sha256Input [utf8 externalProposalHashDomain, lengthPrefixed [message],
          recordHash]
        simp only [sha256Input, List.mapM_cons, List.mapM_nil, domain, hash]
        cases copying : copyBytes (lengthPrefixed [message]) "SHA-256 input" with
        | error e => rfl
        | ok copy =>
          obtain ⟨-, rfl⟩ := copyBytes_eq_ok.mp copying
          rfl

theorem digest_eq (input : DigestInput) :
    input.digest H = (fun bytes => Base64Url.encode (H.digest bytes)) <$> input.hashed := by
  cases input with
  | envelopeLeaf input =>
    change Base64Url.encode <$> (parseEnvelopeLeafInput input >>= _) =
      _ <$> (parseEnvelopeLeafInput input >>= _)
    rw [map_bind, map_bind]
    rfl
  | logHead previousHeadHash leafHash =>
    change Base64Url.encode <$> (checkHash32 previousHeadHash "previousHeadHash" >>= _) =
      _ <$> (checkHash32 previousHeadHash "previousHeadHash" >>= _)
    simp only [map_bind]
    rfl
  | deliveryLogCheckpoint input =>
    change Base64Url.encode <$> (parseDeliveryLogCheckpointInput input >>= _) =
      _ <$> (parseDeliveryLogCheckpointInput input >>= _)
    simp only [map_bind]
    rfl
  | externalProposal publicMessage authorizationRecordHash =>
    exact externalProposal_digest publicMessage authorizationRecordHash
  | idempotencyRequest input =>
    change Base64Url.encode <$> (parseIdempotencyRequestCommitmentInput input >>= _) =
      _ <$> (parseIdempotencyRequestCommitmentInput input >>= _)
    simp only [map_bind]
    rfl
  | fenceRecord resolution => rfl

end

/-- The function that an input belongs to. -/
inductive DigestKind where
  | envelopeLeaf
  | logHead
  | deliveryLogCheckpoint
  | externalProposal
  | idempotencyRequest
  | fenceRecord
deriving DecidableEq

def DigestKind.domain : DigestKind → String
  | .envelopeLeaf => envelopeLeafHashDomain
  | .logHead => logHeadHashDomain
  | .deliveryLogCheckpoint => deliveryLogCheckpointDigestDomain
  | .externalProposal => externalProposalHashDomain
  | .idempotencyRequest => idempotencyRequestCommitmentDomain
  | .fenceRecord => applicationAppendSignerFenceRecordDigestDomain

def DigestInput.kind : DigestInput → DigestKind
  | .envelopeLeaf _ => .envelopeLeaf
  | .logHead _ _ => .logHead
  | .deliveryLogCheckpoint _ => .deliveryLogCheckpoint
  | .externalProposal _ _ => .externalProposal
  | .idempotencyRequest _ => .idempotencyRequest
  | .fenceRecord _ => .fenceRecord

theorem kind_of_domain {first second : DigestKind}
    (h : (utf8 first.domain).take 9 = (utf8 second.domain).take 9) : first = second := by
  revert h
  cases first <;> cases second <;> decide

theorem domain_length (kind : DigestKind) : 9 ≤ (utf8 kind.domain).length := by
  cases kind <;> decide

theorem kind_of_append {first second : DigestKind} {body other : Bytes}
    (h : utf8 first.domain ++ body = utf8 second.domain ++ other) :
    first = second ∧ body = other := by
  have heads := congrArg (List.take 9) h
  rw [List.take_append_of_le_length (domain_length first),
    List.take_append_of_le_length (domain_length second)] at heads
  obtain rfl := kind_of_domain heads
  exact ⟨rfl, List.append_cancel_left h⟩

section

variable {input : EnvelopeLeafInput} {bytes : Bytes} {sender : EnvelopeSender} {label : String}

theorem envelopeLeafInput_eq_ok (h : envelopeLeafInput input = .ok bytes) :
    parseEnvelopeLeafInput input = .ok input ∧
      bytes = utf8 envelopeLeafHashDomain ++ lengthPrefixed (envelopeLeafFields input) := by
  obtain ⟨parsed, hparsed, hbytes⟩ := bind_ok.mp h
  obtain rfl := (checked_eq_ok.mp hparsed).2
  refine ⟨hparsed, ?_⟩
  rw [← Except.ok.inj hbytes, List.flatten_cons, List.flatten_cons, List.flatten_nil,
    List.append_nil]

theorem class_text_injective {a b : EnvelopeClass} (h : utf8 a.text = utf8 b.text) : a = b := by
  have texts := utf8_injective h
  cases a <;> cases b <;> first | rfl | exact absurd texts (by decide)

theorem contentType_text_injective {a b : EnvelopeContentType} (h : utf8 a.text = utf8 b.text) :
    a = b := by
  have texts := utf8_injective h
  cases a <;> cases b <;> first | rfl | exact absurd texts (by decide)

def senderFields : EnvelopeSender → List Bytes
  | .installation accountId installationId => [utf8 accountId, utf8 installationId]
  | .entitlementSigner credentialId fingerprint signerGeneration =>
    [utf8 credentialId, fingerprint, utf8 signerGeneration.repr]

theorem encodeEnvelopeSenderFields_eq (sender : EnvelopeSender) :
    encodeEnvelopeSenderFields sender = lengthPrefixed (senderFields sender) := by
  cases sender <;> rfl

theorem senderFields_short (parsed : pass (parseEnvelopeSender sender label) = .ok ()) :
    ∀ field ∈ senderFields sender, field.length ≤ 144 := by
  obtain ⟨result, hresult⟩ := pass_eq_ok.mp parsed
  cases sender with
  | installation accountId installationId =>
    have checks := (checked_eq_ok.mp hresult).1
    simp only [List.forall_mem_cons, pass_uuid] at checks
    have haccount := utf8_length_le accountId
    have hinstallation := utf8_length_le installationId
    rw [isUuidV4_length checks.1] at haccount
    rw [isUuidV4_length checks.2.1] at hinstallation
    simp only [senderFields, List.forall_mem_cons, List.not_mem_nil, false_implies, implies_true,
      and_true]
    exact ⟨haccount, hinstallation⟩
  | entitlementSigner credentialId fingerprint signerGeneration =>
    have checks := (checked_eq_ok.mp hresult).1
    simp only [List.forall_mem_cons, pass_uuid, pass_positive, pass_hash] at checks
    obtain ⟨generation, credential, size, -⟩ := checks
    have hcredential := utf8_length_le credentialId
    have hgeneration := utf8_length_le signerGeneration.repr
    have hdigits := repr_length_of_uint63 generation.2
    rw [isUuidV4_length credential] at hcredential
    simp only [senderFields, List.forall_mem_cons, List.not_mem_nil, false_implies, implies_true,
      and_true]
    exact ⟨hcredential, by omega, by omega⟩

theorem length_lengthPrefixed_le {fields : List Bytes} {bound : Nat}
    (short : ∀ field ∈ fields, field.length ≤ bound) :
    (lengthPrefixed fields).length ≤ fields.length * (4 + bound) := by
  induction fields with
  | nil => exact Nat.zero_le _
  | cons field fields ih =>
    rw [List.forall_mem_cons] at short
    have hrest := ih short.2
    have hfield : (lengthPrefix field).length = 4 + field.length := by
      rw [lengthPrefix, List.length_append]
      rfl
    rw [lengthPrefixed, List.flatMap_cons, List.length_append, hfield, List.length_cons,
      Nat.succ_mul]
    rw [lengthPrefixed] at hrest
    have hshort := short.1
    omega

theorem senderFields_length (sender : EnvelopeSender) : (senderFields sender).length ≤ 3 := by
  cases sender <;> simp [senderFields]

theorem sized_senderType (sender : EnvelopeSender) : Sized (utf8 sender.type) := by
  cases sender with
  | installation accountId installationId =>
    have h : "installation".toList.length ≤ 1024 := by decide
    exact sized_utf8 h
  | entitlementSigner credentialId fingerprint signerGeneration =>
    have h : "entitlement_signer".toList.length ≤ 1024 := by decide
    exact sized_utf8 h

theorem sized_sender (parsed : pass (parseEnvelopeSender sender label) = .ok ()) :
    Sized (encodeEnvelopeSenderFields sender) := by
  have hlength := length_lengthPrefixed_le (senderFields_short parsed)
  have hcount := senderFields_length sender
  rw [encodeEnvelopeSenderFields_eq]
  unfold Sized
  omega

theorem sender_injective {a b : EnvelopeSender}
    (first : pass (parseEnvelopeSender a label) = .ok ())
    (second : pass (parseEnvelopeSender b label) = .ok ()) (types : utf8 a.type = utf8 b.type)
    (fields : encodeEnvelopeSenderFields a = encodeEnvelopeSenderFields b) : a = b := by
  have sized : ∀ {sender : EnvelopeSender},
      pass (parseEnvelopeSender sender label) = .ok () →
        ∀ field ∈ senderFields sender, Sized field := by
    intro sender parsed field hfield
    have hshort := senderFields_short parsed field hfield
    unfold Sized
    omega
  rw [encodeEnvelopeSenderFields_eq, encodeEnvelopeSenderFields_eq] at fields
  have hfields := lengthPrefixed_injective (sized first) (sized second) fields
  have htypes := utf8_injective types
  have apart : "installation" ≠ "entitlement_signer" := by decide
  cases a with
  | installation accountId installationId =>
    cases b with
    | installation otherAccount otherInstallation =>
      simp only [senderFields, List.cons.injEq, and_true] at hfields
      rw [utf8_injective hfields.1, utf8_injective hfields.2]
    | entitlementSigner _ _ _ => exact absurd htypes apart
  | entitlementSigner credentialId fingerprint signerGeneration =>
    cases b with
    | installation _ _ => exact absurd htypes.symm apart
    | entitlementSigner otherCredential otherFingerprint otherGeneration =>
      simp only [senderFields, List.cons.injEq, and_true] at hfields
      rw [utf8_injective hfields.1, hfields.2.1, repr_injective (utf8_injective hfields.2.2)]

theorem envelopeLeafFields_sized (parsed : parseEnvelopeLeafInput input = .ok input) :
    ∀ field ∈ envelopeLeafFields input, Sized field := by
  have checks := (checked_eq_ok.mp parsed).1
  simp only [List.forall_mem_cons] at checks
  obtain ⟨sender, -, conversation, position, envelope, epoch, roster, hash, received, -⟩ := checks
  have texts : Sized (utf8 input.envelopeClass.text) ∧ Sized (utf8 input.sender.type) ∧
      Sized (utf8 input.contentType.text) :=
    ⟨sized_utf8 (by cases input.envelopeClass <;> decide), sized_senderType input.sender,
      sized_utf8 (by cases input.contentType <;> decide)⟩
  simp only [envelopeLeafFields, List.forall_mem_cons, List.not_mem_nil, false_implies,
    implies_true, and_true]
  exact ⟨sized_conversationId conversation, sized_positive position, sized_uuid envelope, texts.1,
    texts.2.1, sized_sender sender, sized_uint63 epoch, sized_uint63 roster, texts.2.2,
    sized_checkHash hash, sized_instant received⟩

theorem envelopeLeafInput_injective {a b : EnvelopeLeafInput}
    (first : envelopeLeafInput a = .ok bytes) (second : envelopeLeafInput b = .ok bytes) :
    a = b := by
  obtain ⟨hfirst, hbytes⟩ := envelopeLeafInput_eq_ok first
  obtain ⟨hsecond, hother⟩ := envelopeLeafInput_eq_ok second
  have fields := lengthPrefixed_injective (envelopeLeafFields_sized hfirst)
    (envelopeLeafFields_sized hsecond) (List.append_cancel_left (hbytes.symm.trans hother))
  have sender := (checked_eq_ok.mp hfirst).1 _ List.mem_cons_self
  have otherSender := (checked_eq_ok.mp hsecond).1 _ List.mem_cons_self
  simp only [envelopeLeafFields, List.cons.injEq, and_true] at fields
  obtain ⟨conversation, position, envelope, cls, types, inner, epoch, roster, content, hash,
    received⟩ := fields
  rw [EnvelopeLeafInput.mk.injEq]
  exact ⟨utf8_injective conversation, repr_injective (utf8_injective position),
    utf8_injective envelope, class_text_injective cls,
    sender_injective sender otherSender types inner, repr_injective (utf8_injective epoch),
    repr_injective (utf8_injective roster), contentType_text_injective content, hash,
    utf8_injective received⟩

end

theorem logHeadInput_eq_ok {previousHeadHash leafHash bytes : Bytes}
    (h : logHeadInput previousHeadHash leafHash = .ok bytes) :
    previousHeadHash.length = 32 ∧
      bytes = utf8 logHeadHashDomain ++ (previousHeadHash ++ leafHash) := by
  obtain ⟨previous, hprevious, hrest⟩ := bind_ok.mp h
  obtain ⟨leaf, hleaf, hbytes⟩ := bind_ok.mp hrest
  obtain ⟨hsize, rfl⟩ := checkHash32_eq_ok.mp hprevious
  obtain ⟨-, rfl⟩ := checkHash32_eq_ok.mp hleaf
  refine ⟨hsize, ?_⟩
  rw [← Except.ok.inj hbytes]
  simp only [List.flatten_cons, List.flatten_nil, List.append_nil]

theorem logHeadInput_injective {previous leaf otherPrevious otherLeaf bytes : Bytes}
    (first : logHeadInput previous leaf = .ok bytes)
    (second : logHeadInput otherPrevious otherLeaf = .ok bytes) :
    previous = otherPrevious ∧ leaf = otherLeaf := by
  obtain ⟨hsize, hbytes⟩ := logHeadInput_eq_ok first
  obtain ⟨hother, hsame⟩ := logHeadInput_eq_ok second
  exact List.append_inj (List.append_cancel_left (hbytes.symm.trans hsame))
    (hsize.trans hother.symm)

section

variable {input : DeliveryLogCheckpointInput} {bytes : Bytes}

theorem checkpointInput_eq_ok (h : checkpointInput input = .ok bytes) :
    ∃ position previousHead head, CheckpointValues input position previousHead head ∧
      bytes = (checkpointPreimage input.conversationId position previousHead head
        input.signingKeyId).flatten := by
  obtain ⟨parsed, hparsed, h1⟩ := bind_ok.mp h
  obtain ⟨previousBytes, hprevious, h2⟩ := bind_ok.mp h1
  obtain ⟨headBytes, hhead, hbytes⟩ := bind_ok.mp h2
  obtain ⟨rfl, position, previousHead, head, values⟩ :=
    parseDeliveryLogCheckpointInput_eq_ok hparsed
  obtain ⟨-, hpreviousText⟩ := decodeHash32_eq_ok hprevious
  obtain ⟨-, hheadText⟩ := decodeHash32_eq_ok hhead
  obtain rfl := Base64Url.encode_injective (hpreviousText.trans values.previousText)
  obtain rfl := Base64Url.encode_injective (hheadText.trans values.headText)
  refine ⟨position, previousBytes, headBytes, values, ?_⟩
  rw [← Except.ok.inj hbytes, values.positionText]
  rfl

theorem checkpointFields_sized {position : Nat} {previousHead head : Bytes}
    (values : CheckpointValues input position previousHead head) :
    ∀ field ∈ [utf8 input.conversationId, utf8 position.repr, previousHead, head,
      utf8 input.signingKeyId], Sized field := by
  simp only [List.forall_mem_cons, List.not_mem_nil, false_implies, implies_true, and_true]
  have conversation : Sized (utf8 input.conversationId) := by
    have hlength := isUuidV4_length values.conversation
    exact sized_utf8 (by omega)
  exact ⟨conversation, sized_repr values.bounded, sized_hash values.previousSize,
    sized_hash values.headSize, sized_keyId values.signingKey⟩

theorem checkpointInput_injective {a b : DeliveryLogCheckpointInput}
    (first : checkpointInput a = .ok bytes) (second : checkpointInput b = .ok bytes) : a = b := by
  obtain ⟨position, previousHead, head, values, hbytes⟩ := checkpointInput_eq_ok first
  obtain ⟨other, otherPrevious, otherHead, others, hsame⟩ := checkpointInput_eq_ok second
  have fields := domain_fields_injective (checkpointFields_sized values)
    (checkpointFields_sized others) (hbytes.symm.trans hsame)
  simp only [List.cons.injEq, and_true] at fields
  obtain ⟨conversation, hposition, rfl, rfl, key⟩ := fields
  obtain rfl := repr_injective (utf8_injective hposition)
  rw [DeliveryLogCheckpointInput.mk.injEq]
  exact ⟨utf8_injective conversation, values.positionText.trans others.positionText.symm,
    values.previousText.trans others.previousText.symm,
    values.headText.trans others.headText.symm, utf8_injective key⟩

end

theorem externalProposalInput_eq_ok {publicMessage recordHash bytes : Bytes}
    (h : externalProposalInput publicMessage recordHash = .ok bytes) :
    Sized publicMessage ∧
      bytes = utf8 externalProposalHashDomain ++ (lengthPrefix publicMessage ++ recordHash) := by
  obtain ⟨message, hmessage, h1⟩ := bind_ok.mp h
  obtain ⟨framed, hframed, h2⟩ := bind_ok.mp h1
  obtain ⟨hash, hhash, hinput⟩ := bind_ok.mp h2
  obtain ⟨-, rfl⟩ := copyBytes_eq_ok.mp hmessage
  obtain ⟨rfl, hsized⟩ := canonicalLengthPrefixed_eq_ok hframed
  obtain ⟨-, rfl⟩ := checkHash32_eq_ok.mp hhash
  obtain ⟨-, rfl⟩ := sha256Input_eq_ok.mp hinput
  refine ⟨hsized message List.mem_cons_self, ?_⟩
  simp only [lengthPrefixed, List.flatMap_cons, List.flatMap_nil, List.flatten_cons,
    List.flatten_nil, List.append_nil]

theorem externalProposalInput_injective {message hash other otherHash bytes : Bytes}
    (first : externalProposalInput message hash = .ok bytes)
    (second : externalProposalInput other otherHash = .ok bytes) :
    message = other ∧ hash = otherHash := by
  obtain ⟨hsized, hbytes⟩ := externalProposalInput_eq_ok first
  obtain ⟨hother, hsame⟩ := externalProposalInput_eq_ok second
  exact lengthPrefix_append_injective hsized hother
    (List.append_cancel_left (hbytes.symm.trans hsame))

theorem requestFields_sized {input : IdempotencyRequestCommitmentInput}
    (parsed : parseIdempotencyRequestCommitmentInput input = .ok input) :
    ∀ field ∈ [utf8 input.method, utf8 input.routeTemplate, utf8 input.resourceId,
      utf8 input.mediaType, utf8 input.ifMatch, input.rawBodyBytes], Sized field := by
  have checks := (checked_eq_ok.mp parsed).1
  simp only [List.forall_mem_cons, refuse_eq_ok, not_not] at checks
  obtain ⟨method, route, resource, media, etag, -, -, body, -⟩ := checks
  have methods : ∀ text ∈ mutationMethods, text.toList.length ≤ 1024 := by decide
  have hroute : input.routeTemplate.toList.length ≤ 1024 := by
    rw [Bool.not_eq_false, isRouteTemplate, Bool.and_eq_true, decide_eq_true_eq,
      ← String.length_toList] at route
    omega
  have hresource : Sized (utf8 input.resourceId) := by
    refine sized_utf8 ?_
    by_cases hempty : input.resourceId = ""
    · rw [hempty]
      decide
    · have canonical : isCanonicalUuid input.resourceId = true := by
        rw [not_and, Bool.not_eq_false] at resource
        exact resource hempty
      rw [isCanonicalUuid, Bool.or_eq_true] at canonical
      have hlength : input.resourceId.toList.length = 36 := by
        rcases canonical with h | h
        · exact isUuidV4_length h
        · exact matchesEach_length h
      omega
  have hetag : Sized (utf8 input.ifMatch) := by
    by_cases hempty : input.ifMatch = ""
    · rw [hempty]
      exact sized_utf8 (by decide)
    · rw [if_neg hempty] at etag
      exact sized_etag etag
  have hbody : Sized input.rawBodyBytes := by
    unfold maxIdempotencyRawBodyBytes at body
    unfold Sized
    omega
  have hmedia : Sized (utf8 input.mediaType) := by
    rw [media]
    exact sized_utf8 (by decide)
  simp only [List.forall_mem_cons, List.not_mem_nil, false_implies, implies_true, and_true]
  exact ⟨sized_utf8 (methods _ method), sized_utf8 hroute, hresource, hmedia, hetag, hbody⟩

theorem idempotencyRequestInput_injective {a b : IdempotencyRequestCommitmentInput} {bytes : Bytes}
    (first : idempotencyRequestInput a = .ok bytes)
    (second : idempotencyRequestInput b = .ok bytes) : a = b := by
  obtain ⟨parsed, hfirst, hbytes⟩ := bind_ok.mp first
  obtain ⟨others, hsecond, hsame⟩ := bind_ok.mp second
  obtain ⟨hchecks, rfl⟩ := checked_eq_ok.mp hfirst
  obtain ⟨hothers, rfl⟩ := checked_eq_ok.mp hsecond
  have fields := domain_fields_injective (requestFields_sized hfirst) (requestFields_sized hsecond)
    ((Except.ok.inj hbytes).trans (Except.ok.inj hsame).symm)
  simp only [List.forall_mem_cons, refuse_eq_ok, not_not] at hchecks hothers
  obtain ⟨-, -, -, -, -, query, encoding, -⟩ := hchecks
  obtain ⟨-, -, -, -, -, otherQuery, otherEncoding, -⟩ := hothers
  simp only [List.cons.injEq, and_true] at fields
  obtain ⟨method, route, resource, media, etag, body⟩ := fields
  rw [IdempotencyRequestCommitmentInput.mk.injEq]
  exact ⟨utf8_injective method, utf8_injective route, utf8_injective resource, utf8_injective media,
    utf8_injective etag, body, query.trans otherQuery.symm, encoding.trans otherEncoding.symm⟩

section

variable {bytes : Bytes} {fields : List Bytes}

theorem parseCanonicalBase64UrlBytes_eq_ok {value label : String} {minBytes maxBytes : Nat}
    (h : parseCanonicalBase64UrlBytes value label minBytes maxBytes = .ok bytes) :
    Base64Url.encode bytes = value := by
  obtain ⟨parsed, hparsed, hbytes⟩ := bind_ok.mp h
  obtain ⟨rfl, -, -, hcanonical⟩ := parseCanonicalBase64Url_eq_ok hparsed
  rw [← Except.ok.inj hbytes]
  exact hcanonical

theorem fenceStatusFields_length {status : FenceResolutionStatus}
    (h : fenceStatusFields status = .ok fields) : fields.length = 2 := by
  cases status with
  | signed checkpointSignature signedAt =>
    obtain ⟨signature, -, hfields⟩ := bind_ok.mp h
    rw [← Except.ok.inj hfields]
    rfl
  | cancelled cancellationStatus cancelledAt =>
    rw [← Except.ok.inj h]
    rfl

theorem fenceStatus_injective {a b : FenceResolutionStatus}
    (first : fenceStatusFields a = .ok fields) (second : fenceStatusFields b = .ok fields)
    (texts : utf8 a.text = utf8 b.text) : a = b := by
  have htexts := utf8_injective texts
  have apart : "signed" ≠ "cancelled" := by decide
  cases a with
  | signed signature signedAt =>
    cases b with
    | signed other otherAt =>
      obtain ⟨bytes, hbytes, hfields⟩ := bind_ok.mp first
      obtain ⟨others, hothers, hsame⟩ := bind_ok.mp second
      have heq := (Except.ok.inj hfields).trans (Except.ok.inj hsame).symm
      simp only [List.cons.injEq, and_true] at heq
      obtain ⟨rfl, hat⟩ := heq
      have hsignature := (parseCanonicalBase64UrlBytes_eq_ok hbytes).symm.trans
        (parseCanonicalBase64UrlBytes_eq_ok hothers)
      rw [hsignature, utf8_injective hat]
    | cancelled _ _ => exact absurd htexts apart
  | cancelled reason cancelledAt =>
    cases b with
    | signed _ _ => exact absurd htexts.symm apart
    | cancelled other otherAt =>
      have heq := (Except.ok.inj first).trans (Except.ok.inj second).symm
      simp only [List.cons.injEq, and_true] at heq
      rw [utf8_injective heq.1, utf8_injective heq.2]

/-- The fields in front of the status, with the six hashes decoded. -/
def fenceLeadingFields (resolution : ApplicationAppendSignerFenceResolution)
    (trustRoot previousHead head checkpoint intent token : Bytes) : List Bytes :=
  [utf8 resolution.realmId, utf8 resolution.conversationGeneration,
    utf8 resolution.releaseProfileId, trustRoot, utf8 resolution.conversationId,
    utf8 resolution.position, previousHead, head, utf8 resolution.signingKeyId, checkpoint,
    utf8 resolution.checkpointReceivedAt, intent, utf8 resolution.fenceGeneration, token,
    utf8 resolution.pendingExpiresAt, utf8 resolution.admissionStartedAt,
    utf8 resolution.status.text]

/-- What a fence record is hashed for. -/
structure FenceValues (resolution : ApplicationAppendSignerFenceResolution)
    (trustRoot previousHead head checkpoint intent token : Bytes) (statusFields : List Bytes) :
    Prop where
  status : fenceStatusFields resolution.status = .ok statusFields
  trustRootText : Base64Url.encode trustRoot = resolution.releaseTrustRootDigest
  previousText : Base64Url.encode previousHead = resolution.previousHeadHash
  headText : Base64Url.encode head = resolution.headHash
  checkpointText : Base64Url.encode checkpoint = resolution.checkpointDigest
  intentText : Base64Url.encode intent = resolution.pendingIntentDigest
  tokenText : Base64Url.encode token = resolution.fenceTokenHash
  sized : ∀ field ∈ fenceLeadingFields resolution trustRoot previousHead head checkpoint intent
    token ++ statusFields ++ [utf8 resolution.fenceRecordKeyProfile,
      utf8 resolution.fenceRecordSigningKeyId], Sized field

theorem fenceRecordInput_eq_ok {resolution : ApplicationAppendSignerFenceResolution}
    (h : fenceRecordInput resolution = .ok bytes) :
    ∃ trustRoot previousHead head checkpoint intent token statusFields,
      FenceValues resolution trustRoot previousHead head checkpoint intent token statusFields ∧
        bytes = utf8 applicationAppendSignerFenceRecordDigestDomain ++
          lengthPrefixed (fenceLeadingFields resolution trustRoot previousHead head checkpoint
            intent token ++ statusFields ++ [utf8 resolution.fenceRecordKeyProfile,
              utf8 resolution.fenceRecordSigningKeyId]) := by
  obtain ⟨statusFields, hstatus, h1⟩ := bind_ok.mp h
  obtain ⟨trustRoot, htrustRoot, h2⟩ := bind_ok.mp h1
  obtain ⟨previousHead, hprevious, h3⟩ := bind_ok.mp h2
  obtain ⟨head, hhead, h4⟩ := bind_ok.mp h3
  obtain ⟨checkpoint, hcheckpoint, h5⟩ := bind_ok.mp h4
  obtain ⟨intent, hintent, h6⟩ := bind_ok.mp h5
  obtain ⟨token, htoken, h7⟩ := bind_ok.mp h6
  obtain ⟨body, hbody, hinput⟩ := bind_ok.mp h7
  obtain ⟨rfl, sized⟩ := canonicalLengthPrefixed_eq_ok hbody
  refine ⟨trustRoot, previousHead, head, checkpoint, intent, token, statusFields,
    ⟨hstatus, (decodeHash32_eq_ok htrustRoot).2, (decodeHash32_eq_ok hprevious).2,
      (decodeHash32_eq_ok hhead).2, (decodeHash32_eq_ok hcheckpoint).2,
      (decodeHash32_eq_ok hintent).2, (decodeHash32_eq_ok htoken).2, sized⟩, ?_⟩
  rw [(sha256Input_eq_ok.mp hinput).2, List.flatten_cons, List.flatten_cons, List.flatten_nil,
    List.append_nil]
  rfl

theorem fenceFields_split {resolution other : ApplicationAppendSignerFenceResolution}
    {trustRoot previousHead head checkpoint intent token : Bytes} {statusFields : List Bytes}
    {trustRoot' previousHead' head' checkpoint' intent' token' : Bytes}
    {statusFields' last last' : List Bytes}
    (values : FenceValues resolution trustRoot previousHead head checkpoint intent token
      statusFields)
    (others : FenceValues other trustRoot' previousHead' head' checkpoint' intent' token'
      statusFields')
    (same : fenceLeadingFields resolution trustRoot previousHead head checkpoint intent token ++
      statusFields ++ last = fenceLeadingFields other trustRoot' previousHead' head' checkpoint'
        intent' token' ++ statusFields' ++ last') :
    fenceLeadingFields resolution trustRoot previousHead head checkpoint intent token =
      fenceLeadingFields other trustRoot' previousHead' head' checkpoint' intent' token' ∧
      statusFields = statusFields' ∧ last = last' := by
  rw [List.append_assoc, List.append_assoc] at same
  obtain ⟨hleading, hrest⟩ := List.append_inj same rfl
  have hcount := (fenceStatusFields_length values.status).trans
    (fenceStatusFields_length others.status).symm
  obtain ⟨hstatus, hlast⟩ := List.append_inj hrest hcount
  exact ⟨hleading, hstatus, hlast⟩

theorem fenceRecordInput_injective {a b : ApplicationAppendSignerFenceResolution}
    (first : fenceRecordInput a = .ok bytes) (second : fenceRecordInput b = .ok bytes) :
    a.unsigned = b.unsigned := by
  obtain ⟨_, _, _, _, _, _, statusFields, values, hbytes⟩ := fenceRecordInput_eq_ok first
  obtain ⟨_, _, _, _, _, _, otherFields, others, hsame⟩ := fenceRecordInput_eq_ok second
  have fields := lengthPrefixed_injective values.sized others.sized
    (List.append_cancel_left (hbytes.symm.trans hsame))
  obtain ⟨hleading, rfl, hlast⟩ := fenceFields_split values others fields
  simp only [fenceLeadingFields, List.cons.injEq, and_true] at hleading hlast
  obtain ⟨realm, generation, profile, rfl, conversation, position, rfl, rfl, key, rfl, received,
    rfl, fenceGeneration, rfl, expires, started, text⟩ := hleading
  unfold ApplicationAppendSignerFenceResolution.unsigned
  rw [ApplicationAppendSignerFenceResolution.mk.injEq]
  exact ⟨utf8_injective realm, utf8_injective generation, utf8_injective profile,
    values.trustRootText.symm.trans others.trustRootText, utf8_injective conversation,
    utf8_injective position, values.previousText.symm.trans others.previousText,
    values.headText.symm.trans others.headText, utf8_injective key,
    values.checkpointText.symm.trans others.checkpointText, utf8_injective received,
    values.intentText.symm.trans others.intentText, utf8_injective fenceGeneration,
    values.tokenText.symm.trans others.tokenText, utf8_injective expires, utf8_injective started,
    fenceStatus_injective values.status others.status text, utf8_injective hlast.1, rfl,
    utf8_injective hlast.2, rfl⟩

end

def sampleRecord (fenceRecordDigest : String) (signature : Bytes) :
    ApplicationAppendSignerFenceResolution where
  realmId := "realm"
  conversationGeneration := "1"
  releaseProfileId := "profile"
  releaseTrustRootDigest := Base64Url.encode (List.replicate 32 4)
  conversationId := "00000000-0000-4000-8000-0000000000c1"
  position := "2"
  previousHeadHash := Base64Url.encode (List.replicate 32 5)
  headHash := Base64Url.encode (List.replicate 32 6)
  signingKeyId := "log-key"
  checkpointDigest := Base64Url.encode (List.replicate 32 7)
  checkpointReceivedAt := "2026-01-01T00:00:01.000Z"
  pendingIntentDigest := Base64Url.encode (List.replicate 32 8)
  fenceGeneration := "1"
  fenceTokenHash := Base64Url.encode (List.replicate 32 9)
  pendingExpiresAt := "2026-01-01T00:01:00.000Z"
  admissionStartedAt := "2026-01-01T00:00:00.000Z"
  status := .cancelled "irreversible-cancelled" "2026-01-01T00:01:00.000Z"
  fenceRecordKeyProfile := "application-append-fence-record-ed25519.v1"
  fenceRecordDigest := fenceRecordDigest
  fenceRecordSigningKeyId := "fence-key"
  fenceRecordSignature := Base64Url.encode signature

def sampleFenceFields : List Bytes :=
  fenceLeadingFields (sampleRecord "" []) (List.replicate 32 4) (List.replicate 32 5)
    (List.replicate 32 6) (List.replicate 32 7) (List.replicate 32 8) (List.replicate 32 9) ++
    [utf8 "irreversible-cancelled", utf8 "2026-01-01T00:01:00.000Z"] ++
    [utf8 "application-append-fence-record-ed25519.v1", utf8 "fence-key"]

def sampleBytes : Bytes :=
  [utf8 applicationAppendSignerFenceRecordDigestDomain, lengthPrefixed sampleFenceFields].flatten

private theorem sampleFenceFields_short :
    ∀ field ∈ sampleFenceFields, field.length ≤ 100 := by
  decide

theorem decodeHash32_encode {bytes : Bytes} (h : bytes.length = 32) (label : String) :
    decodeHash32 (Base64Url.encode bytes) label = .ok bytes := by
  refine bind_ok.mpr ⟨_, parseHash32_encode h label, ?_⟩
  rw [Base64Url.decode_encode]

theorem sampleRecord_hashed (fenceRecordDigest : String) (signature : Bytes) :
    (DigestInput.fenceRecord (sampleRecord fenceRecordDigest signature)).hashed =
      .ok sampleBytes := by
  have total := length_lengthPrefixed_le sampleFenceFields_short
  have count : sampleFenceFields.length = 21 := rfl
  have body : canonicalLengthPrefixed sampleFenceFields =
      .ok (lengthPrefixed sampleFenceFields) := by
    refine bind_ok.mpr ⟨sampleFenceFields, copies_eq_ok.mpr ⟨?_, rfl⟩, if_neg ?_⟩
    · intro field hfield
      have hshort := sampleFenceFields_short field hfield
      unfold defaultMaxBase64UrlBytes
      omega
    · unfold u32Max
      omega
  have input : sha256Input [utf8 applicationAppendSignerFenceRecordDigestDomain,
      lengthPrefixed sampleFenceFields] = .ok sampleBytes := by
    refine sha256Input_eq_ok.mpr ⟨?_, rfl⟩
    have domain : (utf8 applicationAppendSignerFenceRecordDigestDomain).length = 48 := by decide
    simp only [List.forall_mem_cons, List.not_mem_nil, false_implies, implies_true, and_true]
    unfold defaultMaxBase64UrlBytes
    omega
  have hash : ∀ byte : UInt8,
      decodeHash32 (Base64Url.encode (List.replicate 32 byte)) "hash" =
        .ok (List.replicate 32 byte) := fun byte => decodeHash32_encode List.length_replicate "hash"
  exact bind_ok.mpr ⟨_, rfl, bind_ok.mpr ⟨_, hash 4,
    bind_ok.mpr ⟨_, hash 5, bind_ok.mpr ⟨_, hash 6,
      bind_ok.mpr ⟨_, hash 7, bind_ok.mpr ⟨_, hash 8,
        bind_ok.mpr ⟨_, hash 9, bind_ok.mpr ⟨_, body, input⟩⟩⟩⟩⟩⟩⟩⟩

section

variable {bytes : Bytes}

theorem hashed_domain {input : DigestInput} (h : input.hashed = .ok bytes) :
    ∃ body, bytes = utf8 input.kind.domain ++ body := by
  cases input with
  | envelopeLeaf input => exact ⟨_, (envelopeLeafInput_eq_ok h).2⟩
  | logHead previousHeadHash leafHash => exact ⟨_, (logHeadInput_eq_ok h).2⟩
  | deliveryLogCheckpoint input =>
    obtain ⟨_, _, _, -, rfl⟩ := checkpointInput_eq_ok h
    exact ⟨_, List.flatten_cons⟩
  | externalProposal publicMessage authorizationRecordHash =>
    exact ⟨_, (externalProposalInput_eq_ok h).2⟩
  | idempotencyRequest input =>
    obtain ⟨parsed, -, hbytes⟩ := bind_ok.mp h
    rw [← Except.ok.inj hbytes]
    exact ⟨_, List.flatten_cons⟩
  | fenceRecord resolution =>
    obtain ⟨_, _, _, _, _, _, _, -, hbytes⟩ := fenceRecordInput_eq_ok h
    exact ⟨_, hbytes⟩

theorem hashed_unsigned (input : DigestInput) : input.unsigned.hashed = input.hashed := by
  cases input <;> rfl

theorem unsigned_of_hashed {first second : DigestInput} (hfirst : first.hashed = .ok bytes)
    (hsecond : second.hashed = .ok bytes) :
    first.unsigned = second.unsigned := by
  obtain ⟨body, hbytes⟩ := hashed_domain hfirst
  obtain ⟨other, hsame⟩ := hashed_domain hsecond
  have kinds := (kind_of_append (hbytes.symm.trans hsame)).1
  cases first with
  | envelopeLeaf input =>
    cases second with
    | envelopeLeaf other => rw [envelopeLeafInput_injective hfirst hsecond]
    | _ => cases kinds
  | logHead previousHeadHash leafHash =>
    cases second with
    | logHead otherPrevious otherLeaf =>
      obtain ⟨rfl, rfl⟩ := logHeadInput_injective hfirst hsecond
      rfl
    | _ => cases kinds
  | deliveryLogCheckpoint input =>
    cases second with
    | deliveryLogCheckpoint other => rw [checkpointInput_injective hfirst hsecond]
    | _ => cases kinds
  | externalProposal publicMessage authorizationRecordHash =>
    cases second with
    | externalProposal otherMessage otherHash =>
      obtain ⟨rfl, rfl⟩ := externalProposalInput_injective hfirst hsecond
      rfl
    | _ => cases kinds
  | idempotencyRequest input =>
    cases second with
    | idempotencyRequest other => rw [idempotencyRequestInput_injective hfirst hsecond]
    | _ => cases kinds
  | fenceRecord resolution =>
    cases second with
    | fenceRecord other =>
      exact congrArg DigestInput.fenceRecord (fenceRecordInput_injective hfirst hsecond)
    | _ => cases kinds

/-- Every digest is the hash of one byte string, and two of these are the same exactly for
inputs of one function that differ at most in the digest and the signature of a record. -/
theorem digest_inputs_told_apart {first second : DigestInput} {bytes : Bytes}
    (accepted : first.hashed = .ok bytes) :
    (∀ (H : HashFunction) (input : DigestInput), input.digest H =
        (fun hashed => Base64Url.encode (H.digest hashed)) <$> input.hashed) ∧
      (second.hashed = .ok bytes ↔ second.unsigned = first.unsigned) := by
  refine ⟨fun H input => digest_eq input, fun h => unsigned_of_hashed h accepted, fun h => ?_⟩
  rw [← hashed_unsigned second, h, hashed_unsigned, accepted]

theorem resigned_record_told_apart :
    (DigestInput.fenceRecord (sampleRecord "" [1])).hashed = .ok sampleBytes ∧
      (∀ (H : HashFunction) (input : DigestInput), input.digest H =
        (fun hashed => Base64Url.encode (H.digest hashed)) <$> input.hashed) ∧
      ((DigestInput.fenceRecord (sampleRecord "" [2])).hashed = .ok sampleBytes ↔
        (DigestInput.fenceRecord (sampleRecord "" [2])).unsigned =
          (DigestInput.fenceRecord (sampleRecord "" [1])).unsigned) :=
  ⟨sampleRecord_hashed "" [1], digest_inputs_told_apart (sampleRecord_hashed "" [1])⟩

/-- Whatever the hash, two records carry the digest computed for them and differ in the
signature over it. -/
theorem signature_outside_digest :
    (DigestInput.fenceRecord (sampleRecord "" (List.replicate 64 1))).hashed = .ok sampleBytes ∧
      (DigestInput.fenceRecord (sampleRecord "" (List.replicate 64 2))).hashed = .ok sampleBytes ∧
      (∀ digest, sampleRecord digest (List.replicate 64 1) ≠
        sampleRecord digest (List.replicate 64 2)) ∧
      ∀ (H : HashFunction) (signature : Bytes),
        computeApplicationAppendSignerFenceRecordDigest H
            (sampleRecord (Base64Url.encode (H.digest sampleBytes)) signature) =
          .ok (Base64Url.encode (H.digest sampleBytes)) := by
  refine ⟨sampleRecord_hashed "" _, sampleRecord_hashed "" _, fun digest h => ?_,
    fun H signature => bind_ok.mpr ⟨_, sampleRecord_hashed _ signature, rfl⟩⟩
  have signatures := Base64Url.encode_injective
    (congrArg ApplicationAppendSignerFenceResolution.fenceRecordSignature h)
  exact absurd signatures (by decide)

end

end JbChat.Store.DigestInputs
