/- source: src/production/delivery/hashes.ts
   digest: The delivery log checkpoint digest and the inputs it is defined for. -/

import JbChat.Foundation.LengthPrefix
import JbChat.Delivery.ValueObjects

set_option autoImplicit false

namespace JbChat.Delivery.Hashes

open Foundation Foundation.HashTrace Foundation.LengthPrefix Foundation.Transaction ValueObjects

def deliveryLogCheckpointDigestDomain : String := "jb-msg-delivery-log-checkpoint/v1"

def sha256Bytes (H : HashFunction) (parts : List Bytes) : Bytes := H.digest parts.flatten

theorem sized_hash {bytes : Bytes} (h : bytes.length = 32) : Sized bytes := by
  unfold Sized
  rw [h]
  decide

theorem sized_utf8 {text : String} (h : text.toList.length ≤ 1024) : Sized (utf8 text) := by
  have hbytes := utf8_length_le text
  unfold Sized
  omega

theorem sized_repr {n : Nat} (h : n ≤ uint63Max) : Sized (utf8 n.repr) := by
  have hdigits := repr_length_of_uint63 h
  exact sized_utf8 (by omega)

theorem sized_keyId {text : String} (h : isSigningKeyId text = true) : Sized (utf8 text) := by
  have hchars := isSigningKeyId_length h
  exact sized_utf8 (by omega)

theorem domain_fields_injective {domain : Bytes} {xs ys : List Bytes} (hx : ∀ x ∈ xs, Sized x)
    (hy : ∀ y ∈ ys, Sized y)
    (h : [domain, lengthPrefixed xs].flatten = [domain, lengthPrefixed ys].flatten) : xs = ys := by
  simp only [List.flatten_cons, List.flatten_nil, List.append_nil] at h
  exact lengthPrefixed_injective hx hy (List.append_cancel_left h)

structure DeliveryLogCheckpointInput where
  conversationId : String
  position : String
  previousHeadHash : String
  headHash : String
  signingKeyId : String

def parseDeliveryLogCheckpointInput (record : DeliveryLogCheckpointInput) :
    Except Failure DeliveryLogCheckpointInput := do
  let conversationId ← parseConversationId record.conversationId
  let _ ← parsePositiveUint63String record.position "position"
  let previousHeadHash ← parseHash32 record.previousHeadHash "previousHeadHash"
  let headHash ← parseHash32 record.headHash "headHash"
  let signingKeyId ← parseSigningKeyId record.signingKeyId
  if record.position = "1" ∧ previousHeadHash ≠ zeroHash32 then
    .error (.invalid "position one must bind the all-zero previous head hash.")
  else if record.position ≠ "1" ∧ previousHeadHash = zeroHash32 then
    .error (.invalid "only position one may bind the all-zero previous head hash.")
  else .ok ⟨conversationId, record.position, previousHeadHash, headHash, signingKeyId⟩

def computeDeliveryLogCheckpointDigest (H : HashFunction) (input : DeliveryLogCheckpointInput) :
    Except Failure Bytes := do
  let parsed ← parseDeliveryLogCheckpointInput input
  let previousHeadHash ← decodeHash32 parsed.previousHeadHash "previousHeadHash"
  let headHash ← decodeHash32 parsed.headHash "headHash"
  .ok (sha256Bytes H [utf8 deliveryLogCheckpointDigestDomain,
    lengthPrefixed [utf8 parsed.conversationId, utf8 parsed.position, previousHeadHash, headHash,
      utf8 parsed.signingKeyId]])

/-- The values behind an input for which the digest is defined. -/
structure CheckpointValues (input : DeliveryLogCheckpointInput) (position : Nat)
    (previousHead head : Bytes) : Prop where
  conversation : isUuidV4 input.conversationId = true
  positionText : input.position = position.repr
  positive : 1 ≤ position
  bounded : position ≤ uint63Max
  previousText : input.previousHeadHash = Base64Url.encode previousHead
  previousSize : previousHead.length = 32
  headText : input.headHash = Base64Url.encode head
  headSize : head.length = 32
  signingKey : isSigningKeyId input.signingKeyId = true
  genesis : position = 1 ↔ previousHead = List.replicate 32 0

theorem CheckpointValues.unique {input : DeliveryLogCheckpointInput} {position other : Nat}
    {previousHead head otherPrevious otherHead : Bytes}
    (values : CheckpointValues input position previousHead head)
    (others : CheckpointValues input other otherPrevious otherHead) :
    other = position ∧ otherPrevious = previousHead ∧ otherHead = head := by
  refine ⟨?_, Base64Url.encode_injective (others.previousText.symm.trans values.previousText),
    Base64Url.encode_injective (others.headText.symm.trans values.headText)⟩
  exact repr_injective (others.positionText.symm.trans values.positionText)

theorem zeroHash32_eq_encode : zeroHash32 = Base64Url.encode (List.replicate 32 0) := by
  decide +kernel

private theorem position_one_iff {position : Nat} : position.repr = "1" ↔ position = 1 := by
  constructor
  · intro h
    exact repr_injective h
  · rintro rfl
    rfl

private theorem encode_eq_zeroHash32_iff {bytes : Bytes} :
    Base64Url.encode bytes = zeroHash32 ↔ bytes = List.replicate 32 0 := by
  rw [zeroHash32_eq_encode]
  exact ⟨Base64Url.encode_injective, fun h => by rw [h]⟩

private theorem parseHash32_eq_ok {value label parsed : String}
    (h : parseHash32 value label = .ok parsed) :
    parsed = value ∧ ∃ bytes : Bytes, bytes.length = 32 ∧ value = Base64Url.encode bytes := by
  obtain ⟨rfl, hlow, hhigh, hcanonical⟩ := parseCanonicalBase64Url_eq_ok h
  exact ⟨rfl, Base64Url.decode parsed, by omega, hcanonical.symm⟩

private theorem parseSigningKeyId_eq_ok {value parsed : String}
    (h : parseSigningKeyId value = .ok parsed) : parsed = value ∧ isSigningKeyId value = true := by
  unfold parseSigningKeyId at h
  split_ifs at h with hok
  exact ⟨(Except.ok.inj h).symm, hok⟩

theorem parseDeliveryLogCheckpointInput_eq_ok {record parsed : DeliveryLogCheckpointInput}
    (h : parseDeliveryLogCheckpointInput record = .ok parsed) :
    parsed = record ∧ ∃ position previousHead head,
      CheckpointValues record position previousHead head := by
  obtain ⟨conversationId, hconversation, h1⟩ := bind_ok.mp h
  obtain ⟨position, hposition, h2⟩ := bind_ok.mp h1
  obtain ⟨previousHeadHash, hprevious, h3⟩ := bind_ok.mp h2
  obtain ⟨headHash, hhead, h4⟩ := bind_ok.mp h3
  obtain ⟨signingKeyId, hkey, hchecks⟩ := bind_ok.mp h4
  obtain ⟨huuid, rfl⟩ := parseUuidV4_eq_ok.mp hconversation
  obtain ⟨hrepr, hpositive, hbounded⟩ := parsePositiveUint63String_eq_ok hposition
  obtain ⟨rfl, previousBytes, hpreviousSize, hpreviousText⟩ := parseHash32_eq_ok hprevious
  obtain ⟨rfl, headBytes, hheadSize, hheadText⟩ := parseHash32_eq_ok hhead
  obtain ⟨rfl, hkeyId⟩ := parseSigningKeyId_eq_ok hkey
  split_ifs at hchecks with hfirst hlater
  refine ⟨(Except.ok.inj hchecks).symm, position, previousBytes, headBytes, huuid, hrepr,
    hpositive, hbounded, hpreviousText, hpreviousSize, hheadText, hheadSize, hkeyId, ?_⟩
  rw [← position_one_iff, ← hrepr, ← encode_eq_zeroHash32_iff, ← hpreviousText]
  push Not at hfirst hlater
  exact ⟨hfirst, fun hzero => by_contra fun hne => hlater hne hzero⟩

theorem parseDeliveryLogCheckpointInput_of_values {record : DeliveryLogCheckpointInput}
    {position : Nat} {previousHead head : Bytes}
    (values : CheckpointValues record position previousHead head) :
    parseDeliveryLogCheckpointInput record = .ok record := by
  have hgenesis : record.position = "1" ↔ record.previousHeadHash = zeroHash32 := by
    rw [values.positionText, values.previousText, position_one_iff, encode_eq_zeroHash32_iff]
    exact values.genesis
  have hconversation : parseConversationId record.conversationId = .ok record.conversationId := by
    rw [parseConversationId, parseUuidV4, if_pos values.conversation]
  have hposition : parsePositiveUint63String record.position "position" = .ok position := by
    rw [values.positionText]
    exact parsePositiveUint63String_repr values.positive values.bounded "position"
  have hprevious : parseHash32 record.previousHeadHash "previousHeadHash" =
      .ok record.previousHeadHash := by
    rw [values.previousText]
    exact parseHash32_encode values.previousSize "previousHeadHash"
  have hhead : parseHash32 record.headHash "headHash" = .ok record.headHash := by
    rw [values.headText]
    exact parseHash32_encode values.headSize "headHash"
  have hkey : parseSigningKeyId record.signingKeyId = .ok record.signingKeyId := by
    rw [parseSigningKeyId, if_pos values.signingKey]
  rw [parseDeliveryLogCheckpointInput, hconversation, hposition, hprevious, hhead, hkey]
  change (if _ then _ else _) = _
  rw [if_neg (fun h => h.2 (hgenesis.mp h.1)), if_neg (fun h => h.1 (hgenesis.mpr h.2))]

def checkpointPreimage (conversationId : String) (position : Nat) (previousHead head : Bytes)
    (signingKeyId : String) : List Bytes :=
  [utf8 deliveryLogCheckpointDigestDomain,
    lengthPrefixed [utf8 conversationId, utf8 position.repr, previousHead, head,
      utf8 signingKeyId]]

theorem computeDeliveryLogCheckpointDigest_eq_ok {H : HashFunction}
    {input : DeliveryLogCheckpointInput} {digest : Bytes} :
    computeDeliveryLogCheckpointDigest H input = .ok digest ↔
      ∃ position previousHead head, CheckpointValues input position previousHead head ∧
        digest = sha256Bytes H (checkpointPreimage input.conversationId position previousHead head
          input.signingKeyId) := by
  constructor
  · intro h
    obtain ⟨parsed, hparsed, h1⟩ := bind_ok.mp h
    obtain ⟨previousBytes, hprevious, h2⟩ := bind_ok.mp h1
    obtain ⟨headBytes, hhead, hdigest⟩ := bind_ok.mp h2
    obtain ⟨rfl, position, previousHead, head, values⟩ :=
      parseDeliveryLogCheckpointInput_eq_ok hparsed
    obtain ⟨-, hpreviousText⟩ := decodeHash32_eq_ok hprevious
    obtain ⟨-, hheadText⟩ := decodeHash32_eq_ok hhead
    obtain rfl : previousBytes = previousHead :=
      Base64Url.encode_injective (hpreviousText.trans values.previousText)
    obtain rfl : headBytes = head := Base64Url.encode_injective (hheadText.trans values.headText)
    refine ⟨position, previousBytes, headBytes, values, ?_⟩
    rw [← Except.ok.inj hdigest, values.positionText]
    rfl
  · rintro ⟨position, previousHead, head, values, rfl⟩
    have hprevious : decodeHash32 input.previousHeadHash "previousHeadHash" =
        .ok previousHead := by
      have hparse := parseHash32_encode values.previousSize "previousHeadHash"
      rw [decodeHash32, values.previousText]
      rw [parseHash32] at hparse
      rw [hparse]
      change Except.ok _ = _
      rw [Base64Url.decode_encode]
    have hhead : decodeHash32 input.headHash "headHash" = .ok head := by
      have hparse := parseHash32_encode values.headSize "headHash"
      rw [decodeHash32, values.headText]
      rw [parseHash32] at hparse
      rw [hparse]
      change Except.ok _ = _
      rw [Base64Url.decode_encode]
    refine bind_ok.mpr ⟨input, parseDeliveryLogCheckpointInput_of_values values,
      bind_ok.mpr ⟨previousHead, hprevious, bind_ok.mpr ⟨head, hhead, ?_⟩⟩⟩
    rw [values.positionText]
    rfl

end JbChat.Delivery.Hashes
