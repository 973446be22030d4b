/- source: src/production/delivery/idempotency.ts, service.ts,
     src/production/storage/postgresDeliveryStore.ts
   digest: The append requests of clients, the commands made of them, and the preflight read. -/

import JbChat.Store.AppendStore

/-!
The reader of a request body is a parameter: whatever it makes of the bytes, the same bytes
give the same body.
-/

set_option autoImplicit false

namespace JbChat.Store.AppendRequests

open Foundation.HashTrace Foundation.LengthPrefix Foundation.Transaction Delivery.ValueObjects
open Delivery.Hashes Delivery.Snapshot Delivery.SnapshotParse Delivery.SnapshotDigest
open Delivery.EnvelopeLog Commands Tables Store.Authority AppendStore

structure IdempotencyRequestCommitmentInput where
  method : String
  routeTemplate : String
  resourceId : String
  mediaType : String
  ifMatch : String
  rawBodyBytes : Bytes
  queryString : String
  contentEncoding : Option String

def mutationMethods : List String := ["POST", "PUT", "PATCH", "DELETE"]

def apiV1MediaType : String := "application/vnd.juicebox.messaging.v1+json"

def applicationEnvelopeAppendRoute : String :=
  "/v1/conversations/\x7bconversationId\x7d/envelopes"

def maxIdempotencyRawBodyBytes : Nat := 1024 * 1024

/-- `[a-z0-9][a-z0-9-]*`, or `[a-z][A-Za-z0-9]*` in braces -/
def isRouteSegment : List Char → Bool
  | '\x7b' :: first :: rest => decide ('a' ≤ first ∧ first ≤ 'z') &&
      rest.getLast? == some '\x7d' && rest.dropLast.all Char.isAlphanum
  | first :: rest => isKeyChar first && rest.all fun c => isKeyChar c || c == '-'
  | [] => false

/-- `ROUTE_TEMPLATE` with its bounds -/
def isRouteTemplate (value : String) : Bool :=
  decide (4 ≤ value.length ∧ value.length ≤ 256) &&
    match value.toList.splitOn '/' with
    | [] :: ['v', '1'] :: segments => segments.all isRouteSegment
    | _ => false

/-- `CANONICAL_UUID` -/
def isCanonicalUuid (value : String) : Bool := isUuidV4 value || isUuidV7 value

def parseIdempotencyRequestCommitmentInput (input : IdempotencyRequestCommitmentInput) :
    Except Failure IdempotencyRequestCommitmentInput :=
  checked input [
    refuse (input.method ∉ mutationMethods)
      "Mutation method must be an exact uppercase allowlisted method.",
    refuse (isRouteTemplate input.routeTemplate = false)
      "Route template must be canonical, bounded, and query-free.",
    refuse (input.resourceId ≠ "" ∧ isCanonicalUuid input.resourceId = false)
      "Resource ID must be empty or a canonical lowercase UUIDv4/v7.",
    refuse (input.mediaType ≠ apiV1MediaType)
      "Request media type must be the exact version-1 service JSON type.",
    if input.ifMatch = "" then .ok () else pass (parseConversationEtag input.ifMatch),
    refuse (input.queryString ≠ "")
      "Mutation query strings are not eligible for idempotency commitment.",
    refuse (input.contentEncoding ≠ none)
      "Content-Encoding is not accepted on committed mutation requests.",
    refuse (input.rawBodyBytes.length > maxIdempotencyRawBodyBytes)
      "rawBodyBytes must be an intrinsic, fixed, owned byte array."]

def idempotencyRequestCommitmentDomain : String := "jb-msg-idempotency-request/v1"

/-- The byte string that a request is committed to by. -/
def commitmentInput (request : IdempotencyRequestCommitmentInput) : Bytes :=
  [utf8 idempotencyRequestCommitmentDomain,
    lengthPrefixed [utf8 request.method, utf8 request.routeTemplate, utf8 request.resourceId,
      utf8 request.mediaType, utf8 request.ifMatch, request.rawBodyBytes]].flatten

def computeIdempotencyRequestCommitment (H : HashFunction)
    (request : IdempotencyRequestCommitmentInput) : Except Failure Bytes := do
  let request ← parseIdempotencyRequestCommitmentInput request
  .ok (H.digest (commitmentInput request))

/-- What the route hands to the service. -/
structure AppendApplicationEnvelopeRequest where
  idempotencyKey : String
  authenticatedSender : EnvelopeSender
  authenticatedCredentialId : String
  authenticatedCredentialFingerprint : Bytes
  authenticatedCredentialRevocationVersion : Nat
  request : IdempotencyRequestCommitmentInput

/-- The release that a service is composed for. -/
structure ApplicationEnvelopeDeliveryTrustContext where
  realmId : String
  releaseProfileId : String
  releaseTrustRootDigest : Bytes
  deliveryLimitsDigest : Bytes
  deliveryLimits : DeliveryLimits

/-- `parseApplicationAppendJson` -/
abbrev BodyReader := Bytes → Except Failure ApplicationAppendBody

def requestIdentity (H : HashFunction) (readBody : BodyReader)
    (value : AppendApplicationEnvelopeRequest) :
    Except Failure ApplicationEnvelopeSemanticIdentity := do
  let request ← parseIdempotencyRequestCommitmentInput value.request
  if request.method ≠ "POST" ∨ request.routeTemplate ≠ applicationEnvelopeAppendRoute ∨
      request.mediaType ≠ apiV1MediaType ∨ request.ifMatch = "" then
    .error (.invalid ("Application envelopes require the exact POST route, media type, " ++
      "and non-empty If-Match."))
  else
    let conversationId ← parseConversationId request.resourceId
    match ← parseEnvelopeSender value.authenticatedSender "authenticatedSender" with
    | .entitlementSigner .. =>
      .error (.invalid "Application envelopes require an installation sender.")
    | .installation accountId installationId => do
      let append ← readBody request.rawBodyBytes
      let ifMatch ← parseConversationEtag request.ifMatch
      parseApplicationEnvelopeSemanticIdentity H
        ⟨conversationId, ifMatch, ⟨accountId, installationId⟩, append⟩

/-- The command of a request. The credential and the idempotency key are parsed with the
command. -/
def commandOf (H : HashFunction) (readBody : BodyReader)
    (trustContext : ApplicationEnvelopeDeliveryTrustContext)
    (value : AppendApplicationEnvelopeRequest) : Except Failure AtomicApplicationAppendCommand := do
  let identity ← requestIdentity H readBody value
  let requestCommitment ← computeIdempotencyRequestCommitment H value.request
  parseAtomicApplicationAppendCommand H
    { realmId := trustContext.realmId
      idempotencyKey := value.idempotencyKey
      requestCommitment := requestCommitment
      semanticIdentity := identity
      authenticatedCredentialId := value.authenticatedCredentialId
      authenticatedCredentialFingerprint := value.authenticatedCredentialFingerprint
      authenticatedCredentialRevocationVersion := value.authenticatedCredentialRevocationVersion
      releaseProfileId := trustContext.releaseProfileId
      deliveryLimitsDigest := trustContext.deliveryLimitsDigest
      releaseTrustRootDigest := trustContext.releaseTrustRootDigest
      deliveryLimits := trustContext.deliveryLimits }

section

variable {H : HashFunction} {readBody : BodyReader} {command : AtomicApplicationAppendCommand}

structure Requested (H : HashFunction) (readBody : BodyReader)
    (request : AppendApplicationEnvelopeRequest) (command : AtomicApplicationAppendCommand) :
    Prop where
  parsed : parseAtomicApplicationAppendCommand H command = .ok command
  commitment : command.requestCommitment = H.digest (commitmentInput request.request)
  method : request.request.method = "POST"
  route : request.request.routeTemplate = applicationEnvelopeAppendRoute
  resource : isUuidV4 request.request.resourceId = true
  media : request.request.mediaType = apiV1MediaType
  etag : pass (parseConversationEtag request.request.ifMatch) = .ok ()
  body : readBody request.request.rawBodyBytes = .ok command.semanticIdentity.append
  bounded : request.request.rawBodyBytes.length ≤ maxIdempotencyRawBodyBytes
  conversationId : command.semanticIdentity.conversationId = request.request.resourceId
  ifMatch : command.semanticIdentity.ifMatch = request.request.ifMatch

theorem parseConversationEtag_eq_ok {value parsed : String}
    (h : parseConversationEtag value = .ok parsed) : parsed = value := by
  unfold parseConversationEtag at h
  split at h
  · cases h
  · obtain ⟨_, -, h⟩ := bind_ok.mp h
    obtain ⟨_, -, h⟩ := bind_ok.mp h
    exact (Except.ok.inj h).symm

theorem commandOf_eq_ok {trustContext : ApplicationEnvelopeDeliveryTrustContext}
    {value : AppendApplicationEnvelopeRequest}
    (h : commandOf H readBody trustContext value = .ok command) :
    Requested H readBody value command := by
  obtain ⟨identity, hidentity, h1⟩ := bind_ok.mp h
  obtain ⟨commitment, hcommitment, h2⟩ := bind_ok.mp h1
  obtain ⟨hchecks, rfl⟩ := checked_eq_ok.mp h2
  obtain ⟨request, hrequest, hcommitment⟩ := bind_ok.mp hcommitment
  obtain rfl := (checked_eq_ok.mp hrequest).2
  cases hcommitment
  obtain ⟨again, hagain, h3⟩ := bind_ok.mp hidentity
  obtain rfl := (checked_eq_ok.mp hagain).2
  obtain ⟨hroute, h4⟩ := guard_ok.mp h3
  push Not at hroute
  obtain ⟨conversationId, hconversation, h5⟩ := bind_ok.mp h4
  obtain ⟨hresource, rfl⟩ := parseUuidV4_eq_ok.mp hconversation
  obtain ⟨sender, hsender, h6⟩ := bind_ok.mp h5
  cases sender with
  | entitlementSigner credentialId fingerprint signerGeneration => cases h6
  | installation accountId installationId =>
    obtain ⟨append, hbody, h7⟩ := bind_ok.mp h6
    obtain ⟨ifMatch, hifMatch, h8⟩ := bind_ok.mp h7
    have hetag := pass_eq_ok.mpr ⟨ifMatch, hifMatch⟩
    obtain rfl := parseConversationEtag_eq_ok hifMatch
    obtain rfl := (checked_eq_ok.mp h8).2
    have hchecked := (checked_eq_ok.mp hrequest).1
    simp only [List.forall_mem_cons, refuse_eq_ok, not_lt] at hchecked
    exact
      { parsed := checked_eq_ok.mpr ⟨hchecks, rfl⟩
        commitment := rfl
        method := hroute.1
        route := hroute.2.1
        resource := hresource
        media := hroute.2.2.1
        etag := hetag
        body := hbody
        bounded := hchecked.2.2.2.2.2.2.2.1
        conversationId := rfl
        ifMatch := rfl }

theorem Requested.sized {request : AppendApplicationEnvelopeRequest}
    (requested : Requested H readBody request command) :
    ∀ field ∈ [utf8 request.request.method, utf8 request.request.routeTemplate,
      utf8 request.request.resourceId, utf8 request.request.mediaType,
      utf8 request.request.ifMatch, request.request.rawBodyBytes], Sized field := by
  have resource : Sized (utf8 request.request.resourceId) := by
    have hlength := isUuidV4_length requested.resource
    exact sized_utf8 (by omega)
  have body : Sized request.request.rawBodyBytes := by
    have bounded := requested.bounded
    unfold Sized
    unfold maxIdempotencyRawBodyBytes at bounded
    omega
  have constants : Sized (utf8 "POST") ∧ Sized (utf8 applicationEnvelopeAppendRoute) ∧
      Sized (utf8 apiV1MediaType) :=
    ⟨sized_utf8 (by decide), sized_utf8 (by decide), sized_utf8 (by decide)⟩
  rw [requested.method, requested.route, requested.media]
  simp only [List.forall_mem_cons, List.not_mem_nil, false_implies, implies_true, and_true]
  exact ⟨constants.1, constants.2.1, resource, constants.2.2, sized_etag requested.etag, body⟩

theorem commitment_injective {first second : AppendApplicationEnvelopeRequest}
    {other : AtomicApplicationAppendCommand} (requested : Requested H readBody first command)
    (requested' : Requested H readBody second other)
    (safe : ¬ Collision H [commitmentInput first.request, commitmentInput second.request])
    (same : command.requestCommitment = other.requestCommitment) :
    command.semanticIdentity.conversationId = other.semanticIdentity.conversationId ∧
      command.semanticIdentity.ifMatch = other.semanticIdentity.ifMatch ∧
      command.semanticIdentity.append = other.semanticIdentity.append := by
  have hinput := input_eq_of_digest_eq safe List.mem_cons_self
    (List.mem_cons_of_mem _ List.mem_cons_self)
    (requested.commitment.symm.trans (same.trans requested'.commitment))
  have fields := domain_fields_injective requested.sized requested'.sized hinput
  simp only [List.cons.injEq, and_true] at fields
  obtain ⟨-, -, resource, -, ifMatch, body⟩ := fields
  refine ⟨?_, ?_, ?_⟩
  · rw [requested.conversationId, requested'.conversationId, utf8_injective resource]
  · rw [requested.ifMatch, requested'.ifMatch, utf8_injective ifMatch]
  · have hbody := requested.body
    rw [body, requested'.body] at hbody
    exact (Except.ok.inj hbody).symm

end

section

variable {H : HashFunction} {text : String} {command : AtomicApplicationAppendCommand}

theorem before_separator {α : Type} {separator : α} {xs ys rest more : List α}
    (hx : separator ∉ xs) (hy : separator ∉ ys)
    (h : xs ++ separator :: rest = ys ++ separator :: more) : xs = ys ∧ rest = more := by
  induction xs generalizing ys with
  | nil =>
    cases ys with
    | nil => exact ⟨rfl, (List.cons.inj h).2⟩
    | cons y ys =>
      obtain rfl := (List.cons.inj h).1
      exact absurd List.mem_cons_self hy
  | cons x xs ih =>
    rw [List.mem_cons, not_or] at hx
    cases ys with
    | nil => exact absurd (List.cons.inj h).1.symm hx.1
    | cons y ys =>
      rw [List.mem_cons, not_or] at hy
      obtain ⟨rfl, htail⟩ := List.cons.inj h
      obtain ⟨rfl, hrest⟩ := ih hx.2 hy.2 htail
      exact ⟨rfl, hrest⟩

theorem intercalate_cons_injective {first other second another : String} {rest more : List String}
    (hfirst : '\x00' ∉ first.toList) (hother : '\x00' ∉ other.toList)
    (h : "\x00".intercalate (first :: second :: rest) =
      "\x00".intercalate (other :: another :: more)) :
    first = other ∧ "\x00".intercalate (second :: rest) = "\x00".intercalate (another :: more) := by
  rw [String.intercalate_cons_cons, String.intercalate_cons_cons] at h
  have hchars := congrArg String.toList h
  simp only [String.toList_append, List.append_assoc] at hchars
  obtain ⟨hhead, htail⟩ := before_separator hfirst hother hchars
  exact ⟨String.toList_inj.mp hhead, String.toList_inj.mp htail⟩

private theorem separator_notMem {chars : List Char}
    (h : chars.all (fun c => c != '\x00') = true) : '\x00' ∉ chars := by
  intro hmem
  have hother := List.all_eq_true.mp h _ hmem
  simp at hother

private theorem keyChar_ne {c : Char} (h : isKeyChar c = true) : (c != '\x00') = true := by
  rw [bne_iff_ne]
  rintro rfl
  revert h
  decide

theorem matchesEach_all {tests : List (Char → Bool)} {chars : List Char} {allowed : Char → Bool}
    (sound : ∀ test ∈ tests, ∀ c, test c = true → allowed c = true)
    (h : matchesEach tests chars = true) : chars.all allowed = true := by
  induction tests generalizing chars with
  | nil =>
    cases chars with
    | nil => rfl
    | cons c chars => cases h
  | cons test tests ih =>
    cases chars with
    | nil => cases h
    | cons c chars =>
      simp only [matchesEach, Bool.and_eq_true] at h
      rw [List.all_cons, sound test List.mem_cons_self c h.1,
        ih (fun other hother => sound other (List.mem_cons_of_mem test hother)) h.2, Bool.and_self]

theorem uuid_separator (h : isUuidV4 text = true) : '\x00' ∉ text.toList := by
  refine separator_notMem (matchesEach_all ?_ h)
  intro test htest c hc
  rw [bne_iff_ne]
  rintro rfl
  have none : (uuidTests '4').all (fun test => !test '\x00') = true := by decide
  have fails := List.all_eq_true.mp none test htest
  rw [hc] at fails
  cases fails

theorem realm_separator (h : isSigningKeyId text = true) :
    '\x00' ∉ text.toList := by
  unfold isSigningKeyId at h
  split at h
  · cases h
  · rename_i first rest hchars
    rw [hchars]
    simp only [Bool.and_eq_true, decide_eq_true_eq] at h
    refine separator_notMem ?_
    rw [List.all_cons, keyChar_ne h.1.1, Bool.true_and]
    refine List.all_eq_true.mpr fun c hc => ?_
    have hrest := List.all_eq_true.mp h.2 c hc
    rw [bne_iff_ne]
    rintro rfl
    revert hrest
    decide

/-- What a parsed command puts into its idempotency scope in front of the key. -/
structure Scoped (command : AtomicApplicationAppendCommand) : Prop where
  realmId : isSigningKeyId command.realmId = true
  accountId : isUuidV4 command.semanticIdentity.authenticatedSender.accountId = true
  installationId : isUuidV4 command.semanticIdentity.authenticatedSender.installationId = true

theorem scoped_of_parsed
    (h : parseAtomicApplicationAppendCommand H command = .ok command) : Scoped command := by
  have hchecks := (checked_eq_ok.mp h).1
  simp only [List.forall_mem_cons] at hchecks
  obtain ⟨-, -, -, hrealm, -, -, hidentity, -⟩ := hchecks
  obtain ⟨parsed, hidentity⟩ := pass_eq_ok.mp hidentity
  have hparts := (checked_eq_ok.mp hidentity).1
  obtain ⟨sender, hsender⟩ := pass_eq_ok.mp (hparts _ List.mem_cons_self)
  have hids := (checked_eq_ok.mp hsender).1
  simp only [List.forall_mem_cons, pass_uuid] at hids
  refine ⟨?_, hids.1, hids.2.1⟩
  obtain ⟨realm, hrealm⟩ := pass_eq_ok.mp hrealm
  unfold parseDeliveryRealmId at hrealm
  split at hrealm
  · assumption
  · cases hrealm

theorem scopeKey_injective {other : AtomicApplicationAppendCommand} (first : Scoped command)
    (second : Scoped other)
    (same : httpIdempotencyScopeKey command = httpIdempotencyScopeKey other) :
    command.realmId = other.realmId ∧
      command.semanticIdentity.authenticatedSender = other.semanticIdentity.authenticatedSender := by
  obtain ⟨realmId, h1⟩ := intercalate_cons_injective (realm_separator first.realmId)
    (realm_separator second.realmId) same
  obtain ⟨accountId, h2⟩ := intercalate_cons_injective (uuid_separator first.accountId)
    (uuid_separator second.accountId) h1
  obtain ⟨installationId, -⟩ := intercalate_cons_injective (uuid_separator first.installationId)
    (uuid_separator second.installationId) h2
  refine ⟨realmId, ?_⟩
  rw [InstallationEnvelopeSender.mk.injEq]
  exact ⟨accountId, installationId⟩

theorem sameRequest_of_commitment {readBody : BodyReader}
    {first second : AppendApplicationEnvelopeRequest} {other : AtomicApplicationAppendCommand}
    (requested : Requested H readBody first command)
    (requested' : Requested H readBody second other)
    (safe : ¬ Collision H [commitmentInput first.request, commitmentInput second.request])
    (scope : httpIdempotencyScopeKey command = httpIdempotencyScopeKey other)
    (commitment : command.requestCommitment = other.requestCommitment) :
    command.realmId = other.realmId ∧ command.semanticIdentity = other.semanticIdentity := by
  obtain ⟨realmId, sender⟩ := scopeKey_injective (scoped_of_parsed requested.parsed)
    (scoped_of_parsed requested'.parsed) scope
  obtain ⟨conversationId, ifMatch, append⟩ :=
    commitment_injective requested requested' safe commitment
  refine ⟨realmId, ?_⟩
  rw [ApplicationEnvelopeSemanticIdentity.mk.injEq]
  exact ⟨conversationId, ifMatch, sender, append⟩

end

section

variable (H : HashFunction)

def sampleBody (byte : UInt8) : ApplicationAppendBody where
  envelopeId := "00000000-0000-4000-8000-0000000000e1"
  policyHeadId := "00000000-0000-4000-8000-0000000000a1"
  policyHeadSequence := 1
  policyHeadHash := List.replicate 32 1
  expectedEpoch := 1
  expectedRosterVersion := 1
  expectedConfirmedTranscriptHash := List.replicate 32 2
  ciphertext := [byte]
  envelopeSha256 := computeEnvelopeSha256 H [byte]
  attachmentIds := []

def sampleReader : BodyReader
  | [byte] => .ok (sampleBody H byte)
  | _ => .error (.invalid "Request body must be an exact JSON object.")

def sampleSender : InstallationEnvelopeSender :=
  ⟨"00000000-0000-4000-8000-0000000000b1", "00000000-0000-4000-8000-0000000000b2"⟩

def sampleRequest (byte : UInt8) (key : String) : AppendApplicationEnvelopeRequest where
  idempotencyKey := key
  authenticatedSender := sampleSender.sender
  authenticatedCredentialId := "00000000-0000-4000-8000-0000000000b3"
  authenticatedCredentialFingerprint := List.replicate 32 3
  authenticatedCredentialRevocationVersion := 1
  request :=
    { method := "POST"
      routeTemplate := applicationEnvelopeAppendRoute
      resourceId := "00000000-0000-4000-8000-0000000000c1"
      mediaType := apiV1MediaType
      ifMatch := "\"e1-r1\""
      rawBodyBytes := [byte]
      queryString := ""
      contentEncoding := none }

def sampleTrust : ApplicationEnvelopeDeliveryTrustContext where
  realmId := "realm"
  releaseProfileId := "profile"
  releaseTrustRootDigest := List.replicate 32 4
  deliveryLimitsDigest := computeDeliveryLimitsDigest H deliveryTestedCeilings
  deliveryLimits := deliveryTestedCeilings

def sampleIdentity (byte : UInt8) : ApplicationEnvelopeSemanticIdentity :=
  ⟨"00000000-0000-4000-8000-0000000000c1", "\"e1-r1\"", sampleSender, sampleBody H byte⟩

def sampleCommand (byte : UInt8) (key : String) : AtomicApplicationAppendCommand where
  realmId := "realm"
  idempotencyKey := key
  requestCommitment := H.digest (commitmentInput (sampleRequest byte key).request)
  semanticIdentity := sampleIdentity H byte
  authenticatedCredentialId := (sampleRequest byte key).authenticatedCredentialId
  authenticatedCredentialFingerprint := (sampleRequest byte key).authenticatedCredentialFingerprint
  authenticatedCredentialRevocationVersion := 1
  releaseProfileId := "profile"
  deliveryLimitsDigest := computeDeliveryLimitsDigest H deliveryTestedCeilings
  releaseTrustRootDigest := List.replicate 32 4
  deliveryLimits := deliveryTestedCeilings

private theorem sampleIds : ∀ suffix ∈ ["e1", "a1", "b1", "b2", "b3", "c1"],
    isUuidV4 ("00000000-0000-4000-8000-0000000000" ++ suffix) = true := by
  decide +kernel

private theorem sampleEtag : parseConversationEtag "\"e1-r1\"" = .ok "\"e1-r1\"" :=
  rfl

variable {byte : UInt8} {key : String}

theorem sampleIdentity_parses : parseApplicationEnvelopeSemanticIdentity H (sampleIdentity H byte) =
    .ok (sampleIdentity H byte) := by
  have ids := sampleIds
  simp only [List.forall_mem_cons] at ids
  have body : parseApplicationAppendBody H (sampleBody H byte) = .ok (sampleBody H byte) := by
    refine checked_eq_ok.mpr ⟨?_, rfl⟩
    simp only [List.forall_mem_cons, pass_uuid, pass_hash, pass_positive, pass_uint63,
      refuse_eq_ok, checkByteLength]
    exact ⟨by simp [sampleBody], rfl, by simp [sampleBody],
      by simp [sampleBody, maxApplicationEnvelopeBytes], H.length_digest _, not_not.mpr rfl, ids.1,
      ids.2.1, by simp [sampleBody, uint63Max], List.length_replicate, by simp [sampleBody, uint63Max],
      by simp [sampleBody, uint63Max], List.length_replicate, by simp⟩
  refine checked_eq_ok.mpr ⟨?_, rfl⟩
  simp only [List.forall_mem_cons, pass_conversationId]
  refine ⟨pass_eq_ok.mpr ⟨_, checked_eq_ok.mpr ⟨?_, rfl⟩⟩, ids.2.2.2.2.2.1,
    pass_eq_ok.mpr ⟨_, sampleEtag⟩, pass_eq_ok.mpr ⟨_, body⟩, by simp⟩
  simp only [List.forall_mem_cons, pass_uuid]
  exact ⟨ids.2.2.1, ids.2.2.2.1, by simp⟩

theorem sampleCommand_parses (hkey : isUuidV7 key = true) :
    parseAtomicApplicationAppendCommand H (sampleCommand H byte key) =
      .ok (sampleCommand H byte key) := by
  have realm : isSigningKeyId "realm" = true := rfl
  have profile : isSigningKeyId "profile" = true := rfl
  have ids := sampleIds
  simp only [List.forall_mem_cons] at ids
  refine checked_eq_ok.mpr ⟨?_, rfl⟩
  simp only [List.forall_mem_cons, pass_uuid, pass_hash, pass_positive, pass_keyText, refuse_eq_ok]
  refine ⟨pass_eq_ok.mpr ⟨_, deliveryTestedCeilings_parse⟩, H.length_digest _, not_not.mpr rfl,
    pass_eq_ok.mpr ⟨"realm", ?_⟩, pass_eq_ok.mpr ⟨key, ?_⟩,
    H.length_digest _, pass_eq_ok.mpr ⟨_, sampleIdentity_parses H⟩, ids.2.2.2.2.1,
    List.length_replicate, by simp [sampleCommand, uint63Max], profile, List.length_replicate, by simp⟩
  · exact if_pos realm
  · exact if_pos hkey

theorem sampleCommand_of_request (hkey : isUuidV7 key = true) :
    commandOf H (sampleReader H) (sampleTrust H) (sampleRequest byte key) =
      .ok (sampleCommand H byte key) := by
  have ids := sampleIds
  simp only [List.forall_mem_cons] at ids
  have request : parseIdempotencyRequestCommitmentInput (sampleRequest byte key).request =
      .ok (sampleRequest byte key).request := by
    have route : isRouteTemplate applicationEnvelopeAppendRoute = true := rfl
    have resource : isCanonicalUuid "00000000-0000-4000-8000-0000000000c1" = true :=
      Bool.or_eq_true_iff.mpr (.inl ids.2.2.2.2.2.1)
    refine checked_eq_ok.mpr ⟨?_, rfl⟩
    simp only [sampleRequest, List.forall_mem_cons, refuse_eq_ok, route, resource]
    exact ⟨refuse_eq_ok.mpr (by decide), by decide, by decide, refuse_eq_ok.mpr (by decide),
      pass_eq_ok.mpr ⟨_, sampleEtag⟩, refuse_eq_ok.mpr (by decide), refuse_eq_ok.mpr (by decide),
      refuse_eq_ok.mpr (by simp [maxIdempotencyRawBodyBytes]), by simp⟩
  have sender : parseEnvelopeSender sampleSender.sender "authenticatedSender" =
      .ok sampleSender.sender := by
    refine checked_eq_ok.mpr ⟨?_, rfl⟩
    simp only [List.forall_mem_cons, pass_uuid]
    exact ⟨ids.2.2.1, ids.2.2.2.1, by simp⟩
  have identity : requestIdentity H (sampleReader H) (sampleRequest byte key) =
      .ok (sampleIdentity H byte) := by
    refine bind_ok.mpr ⟨_, request, ?_⟩
    rw [if_neg (by simp [sampleRequest])]
    refine bind_ok.mpr ⟨_, parseUuidV4_eq_ok.mpr ⟨ids.2.2.2.2.2.1, rfl⟩, ?_⟩
    refine bind_ok.mpr ⟨_, sender, ?_⟩
    exact bind_ok.mpr ⟨_, rfl, bind_ok.mpr ⟨_, sampleEtag,
      sampleIdentity_parses H⟩⟩
  refine bind_ok.mpr ⟨_, identity, bind_ok.mpr ⟨_, ?_, sampleCommand_parses H hkey⟩⟩
  exact bind_ok.mpr ⟨_, request, rfl⟩

end

section

variable (H : HashFunction)

/-- What a client needs to prepare an append. -/
structure PreflightMiss where
  invocationCommandDigest : Bytes
  lockedSnapshot : LockedApplicationAppendSnapshot
  snapshotDigest : Bytes
  previousHeadHash : Bytes
  attachmentByteLength : Nat
  observedAt : String

/-- `applicationAppendPreflight.read` -/
def readPreflight (clock : CallClock) (command : AtomicApplicationAppendCommand)
    (invocation : DeliveryInvocationContext) (db : DeliveryDb) :
    Except Failure (AppendResult ⊕ PreflightMiss) := do
  if ¬ invocationIsLive clock invocation then return .inl (.unavailable .timeout)
  let _ ← parseAtomicApplicationAppendCommand H command
  if let some accepted ← lookupAcceptedReplay H db command clock then
    return .inl accepted
  if let some replay ← lookupPendingReplay H db command clock.observedAt then
    return .inl replay
  let authority ← loadAuthority H db command.conversationId
    (some command.semanticIdentity.authenticatedSender.installationId)
  let some authority := authority | return .inl (.rejected .conversationNotFound)
  if ¬ commandTrustMatchesSnapshot command authority.snapshot then
    return .inl (.rejected .conversationStateChanged)
  let some attachmentByteLength := measureAttachments db command
    | return .inl (.rejected .attachmentInvalid)
  return .inr
    { invocationCommandDigest := computeAtomicApplicationAppendCommandDigest H command
      lockedSnapshot := authority.snapshot
      snapshotDigest := authority.snapshotDigest
      previousHeadHash := authority.snapshot.conversation.currentLogHeadHash
      attachmentByteLength := attachmentByteLength
      observedAt := clock.observedAt }

end

end JbChat.Store.AppendRequests
