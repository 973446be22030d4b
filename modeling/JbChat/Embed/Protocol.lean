/- source: src/embed/protocol.ts, src/theme/theme.ts
   digest: The messages of an embed channel and the strict parsers of both directions. -/

import JbChat.Embed.StructuredSize
import JbChat.Foundation.Transaction

set_option autoImplicit false

namespace JbChat.Embed.Protocol

open Foundation.CodeUnits Foundation.JsonGrammar Foundation.Numbers StructuredSize

def embedProtocol : String := "org.juicebox.messaging.embed"

def embedCapabilities : List String :=
  ["opaque-context-v1", "semantic-theme-v1", "coarse-unread-v1", "fixed-top-level-v1"]

inductive EmbedProtocolCode where
  | invalidShape
  | unknownField
  | invalidValue
  | channelMismatch
  | sequenceMismatch
  | nonceMismatch

structure EmbedProtocolError where
  code : EmbedProtocolCode
  message : String

abbrev Parse (α : Type) := Except EmbedProtocolError α

def protocolError {α : Type} (code : EmbedProtocolCode) (message : String) : Parse α :=
  .error { code := code, message := message }

/-- The check throws where the condition holds. -/
def rejectWhen (condition : Bool) (code : EmbedProtocolCode) (message : String) : Parse Unit :=
  if condition then protocolError code message else .ok ()

inductive ThemePresetId where
  | neutral
  | juicebox
  | revnet

inductive ThemeCornerStyle where
  | rounded
  | soft
  | square

inductive ThemeDensity where
  | comfortable
  | compact

inductive ThemeTypography where
  | systemSans
  | systemMono

structure ThemeSelection where
  preset : ThemePresetId
  /-- The colours that are given, under their keys. -/
  colors : Option (List (String × String))
  cornerStyle : Option ThemeCornerStyle
  density : Option ThemeDensity
  typography : Option ThemeTypography

def themeColorKeys : List String :=
  ["canvas", "surface", "surfaceSubtle", "surfaceAccent", "surfaceSuccess", "text", "textSoft",
    "textMuted", "border", "borderStrong", "action", "actionHover", "actionFill",
    "actionFillHover", "actionSoft", "onAction", "success", "successSoft", "warning",
    "warningSoft", "danger", "dangerSoft", "focus"]

def selectionKeys : List String :=
  ["version", "preset", "colors", "cornerStyle", "density", "typography"]

/-- The own property of a record; `none` when there is none. -/
def own (record : List (Name × StructuredValue)) (field : String) : Option StructuredValue :=
  record.lookup (codeUnits field)

def hasOwn (record : List (Name × StructuredValue)) (field : String) : Bool :=
  (own record field).isSome

def isUndefined : Option StructuredValue → Bool
  | some .undefined => true
  | _ => false

/-- An own property whose value is `undefined`. -/
def ownUndefined (record : List (Name × StructuredValue)) (field : String) : Bool :=
  isUndefined (own record field)

/-- The field is the text. -/
def isText (value : Option StructuredValue) (text : String) : Bool :=
  match value with
  | some (.string given) => given = codeUnits text
  | _ => false

/-- The field as a text of ASCII characters; no pattern of this module matches any other. -/
def asciiText : Option StructuredValue → Option String
  | some (.string units) =>
    if units.all (· < 128) then some (String.ofList (units.map Char.ofNat)) else none
  | _ => none

/-- The name is one of the texts. -/
def isNamed (names : List String) (field : Name × StructuredValue) : Bool :=
  (names.map codeUnits).contains field.1

/-- The field is the integer, which is a safe one wherever this is asked. -/
def isInteger (value : Option StructuredValue) (number : Int) : Bool :=
  match value with
  | some (.number given) => given = toString number
  | _ => false

def isOneOf {α : Type} (options : List (String × α)) (value : Option StructuredValue) :
    Option α :=
  (asciiText value).bind (List.lookup · options)

/-- An optional field: absent is fine, present it must be one of the listed texts. -/
def optionalOneOf {α : Type} (options : List (String × α)) :
    Option StructuredValue → Option (Option α)
  | none => some none
  | given => (isOneOf options given).map some

def isHexColor (text : String) : Bool :=
  match text.toList with
  | '#' :: digits =>
    digits.length = 6 && digits.all fun c =>
      ('0' ≤ c && c ≤ '9') || ('a' ≤ c && c ≤ 'f') || ('A' ≤ c && c ≤ 'F')
  | _ => false

/-- The colours in the order of the keys; a key that is left out is skipped. -/
def parseColors (colors : List (Name × StructuredValue)) :
    List String → Option (List (String × String))
  | [] => some []
  | key :: keys =>
    match own colors key with
    | none => parseColors colors keys
    | given =>
      match asciiText given with
      | some color =>
        if isHexColor color then
          (parseColors colors keys).map fun rest => (key, color.toLower) :: rest
        else none
      | none => none

def plainFields : StructuredValue → Option (List (Name × StructuredValue))
  | .object true fields => some fields
  | _ => none

/-- The errors of the theme parser are caught and replaced by its one caller, so a rejected
selection is `none` here. -/
def parseThemeSelection (value : StructuredValue) : Option ThemeSelection := do
  let input ← plainFields value
  guard (input.all (isNamed selectionKeys))
  guard (isInteger (own input "version") 1)
  let preset ← isOneOf [("neutral", .neutral), ("juicebox", .juicebox), ("revnet", .revnet)]
    (own input "preset")
  guard !(["colors", "cornerStyle", "density", "typography"].any (ownUndefined input))
  let colors ← match own input "colors" with
    | none => some none
    | some given => do
      let colors ← plainFields given
      guard (colors.all (isNamed themeColorKeys))
      (parseColors colors themeColorKeys).map some
  let cornerStyle ← optionalOneOf [("rounded", .rounded), ("soft", .soft), ("square", .square)]
    (own input "cornerStyle")
  let density ← optionalOneOf [("comfortable", .comfortable), ("compact", .compact)]
    (own input "density")
  let typography ← optionalOneOf [("system-sans", .systemSans), ("system-mono", .systemMono)]
    (own input "typography")
  return { preset, colors, cornerStyle, density, typography }

def plainRecord (value : StructuredValue) (label : String) :
    Parse (List (Name × StructuredValue)) :=
  match value with
  | .object true fields => .ok fields
  | .object false _ => protocolError .invalidShape (label ++ " must be a plain object.")
  | _ => protocolError .invalidShape (label ++ " must be an object.")

def exactRecord (value : StructuredValue) (acceptedFields : List String) (label : String) :
    Parse (List (Name × StructuredValue)) := do
  let fields ← plainRecord value label
  if fields.length != acceptedFields.length ||
      fields.any (!isNamed acceptedFields ·) then
    protocolError .unknownField (label ++ " has missing or unknown fields.")
  else return fields

def recordWithOptionalFields (value : StructuredValue)
    (requiredFields optionalFields : List String) (label : String) :
    Parse (List (Name × StructuredValue)) := do
  let fields ← plainRecord value label
  if requiredFields.any (fun field => !hasOwn fields field) ||
      fields.any (!isNamed (requiredFields ++ optionalFields) ·) then
    protocolError .unknownField (label ++ " has missing or unknown fields.")
  else return fields

/-- Only base64url characters, between `low` and `high` of them. -/
def isToken (low high : Nat) (text : String) : Bool :=
  let characters := text.toList
  low ≤ characters.length && characters.length ≤ high && characters.all fun c =>
    ('A' ≤ c && c ≤ 'Z') || ('a' ≤ c && c ≤ 'z') || ('0' ≤ c && c ≤ '9') || c = '_' || c = '-'

def isValidEmbedChannelId (text : String) : Bool := isToken 22 86 text

def isValidEmbedNonce (text : String) : Bool := isToken 43 86 text

def isRequestId (text : String) : Bool := isToken 16 86 text

def isContextHandle (text : String) : Bool := isToken 43 1024 text

def parseToken (isValid : String → Bool) (message : String) (value : Option StructuredValue) :
    Parse String :=
  match asciiText value with
  | some text => if isValid text then .ok text else protocolError .invalidValue message
  | none => protocolError .invalidValue message

def parseContextHandle : Option StructuredValue → Parse String :=
  parseToken isContextHandle "The context capability is malformed."

def parseNonce (value : Option StructuredValue) (label : String) : Parse String :=
  parseToken isValidEmbedNonce (label ++ " is malformed.") value

def parseRequestId : Option StructuredValue → Parse String :=
  parseToken isRequestId "Request ID is malformed."

inductive EmbedLocale where
  | en

def parseLocale (value : Option StructuredValue) : Parse EmbedLocale :=
  match isOneOf [("en", EmbedLocale.en)] value with
  | some locale => .ok locale
  | none => protocolError .invalidValue "Locale is unsupported."

def parseTheme (value : Option StructuredValue) : Parse ThemeSelection :=
  let selection := do
    let given ← value
    let theme ← plainFields given
    guard !(["colors", "cornerStyle", "density", "typography"].any (ownUndefined theme))
    match own theme "colors" with
    | none => some ()
    | some colors => do
      let fields ← plainFields colors
      guard !(fields.any fun field => isUndefined (fields.lookup field.1))
    parseThemeSelection given
  match selection with
  | some theme => .ok theme
  | none => protocolError .invalidValue "Theme selection is invalid."

def isExactCapabilities : Option StructuredValue → Bool
  | some (.array true entries) =>
    entries.length = embedCapabilities.length &&
      (entries.zip embedCapabilities).all fun pair =>
        match pair.1 with
        | .string capability => capability = codeUnits pair.2
        | _ => false
  | _ => false

structure EmbedEnvelopeExpectation where
  channelId : String
  sequence : Number
  /-- `none`: the one-shot initialization message, which must omit the nonce. -/
  peerNonce : Option String

structure ParsedEnvelope where
  channelId : String
  sequence : Number
  peerNonce : Option String
  requestId : Option String
  type : Option StructuredValue
  payload : StructuredValue

def maxSequence : Number := ofInt (2 ^ 53 - 2)

/-- The integer of a safe one. -/
def safeInteger : Number → Option Int
  | .finite units =>
    if units % scale = 0 ∧ (units / scale).natAbs < 2 ^ 53 then some (units / scale) else none
  | _ => none

/-- `===` against a safe integer. -/
def isNumber (value : Option StructuredValue) (number : Number) : Bool :=
  (safeInteger number).any (isInteger value)

def baseEnvelopeFields : List String :=
  ["protocol", "version", "channelId", "sequence", "type", "payload"]

def optionalEnvelopeFields : List String := ["peerNonce", "requestId"]

def parseOptionalRequestId (envelope : List (Name × StructuredValue)) :
    Parse (Option String) :=
  if hasOwn envelope "requestId" then (parseRequestId (own envelope "requestId")).map some
  else .ok none

def parseEnvelope (value : StructuredValue) (expected : EmbedEnvelopeExpectation) :
    Parse ParsedEnvelope := do
  rejectWhen (!isValidEmbedChannelId expected.channelId ||
      (safeInteger expected.sequence).isNone || expected.sequence.lt (ofInt 0) ||
      maxSequence.lt expected.sequence || expected.peerNonce.any (!isValidEmbedNonce ·))
    .invalidValue "Channel expectation is malformed."
  let envelope ← recordWithOptionalFields value baseEnvelopeFields optionalEnvelopeFields
    "bridge envelope"
  rejectWhen
    (!isText (own envelope "protocol") embedProtocol || !isInteger (own envelope "version") 1)
    .invalidValue "Unsupported embed protocol."
  rejectWhen (!isText (own envelope "channelId") expected.channelId)
    .channelMismatch "Embed channel does not match."
  rejectWhen (!isNumber (own envelope "sequence") expected.sequence)
    .sequenceMismatch "Embed sequence does not match."
  rejectWhen
    (match expected.peerNonce with
      | none => hasOwn envelope "peerNonce"
      | some nonce => !isText (own envelope "peerNonce") nonce)
    .nonceMismatch "Embed peer nonce does not match."
  let requestId ← parseOptionalRequestId envelope
  return {
    channelId := expected.channelId
    sequence := expected.sequence
    peerNonce := expected.peerNonce
    requestId := requestId
    type := own envelope "type"
    payload := (own envelope "payload").getD .undefined }

/-- What every message carries besides its payload. -/
structure BridgeEnvelope where
  channelId : String
  sequence : Number
  peerNonce : Option String
  requestId : Option String

def withoutPeerNonce (envelope : ParsedEnvelope) : BridgeEnvelope :=
  { channelId := envelope.channelId
    sequence := envelope.sequence
    peerNonce := none
    requestId := envelope.requestId }

def withPeerNonce (envelope : ParsedEnvelope) : Parse BridgeEnvelope :=
  match envelope.peerNonce with
  | none => protocolError .nonceMismatch "A peer nonce is required."
  | some nonce => .ok { withoutPeerNonce envelope with peerNonce := some nonce }

def requireEstablished (expected : EmbedEnvelopeExpectation) : Parse Unit :=
  rejectWhen (expected.peerNonce.isNone || expected.sequence.lt (ofInt 1))
    .invalidValue "The channel is not established."

def requirePeerNonce (expected : EmbedEnvelopeExpectation) : Parse Unit :=
  rejectWhen expected.peerNonce.isNone .invalidValue "The peer nonce is not established."

def requireOperationalSequence (expected : EmbedEnvelopeExpectation) : Parse Unit :=
  rejectWhen (expected.sequence.lt (ofInt 1)) .invalidValue "Operational message arrived before ready."

structure HostInit where
  bootstrapNonce : String
  parentNonce : String
  contextHandle : String
  locale : EmbedLocale
  theme : ThemeSelection

inductive HostPayload where
  | init (payload : HostInit)
  | setTheme (theme : ThemeSelection)
  | setLocale (locale : EmbedLocale)
  | destroy

def HostPayload.type : HostPayload → String
  | init _ => "host.init"
  | setTheme _ => "host.set_theme"
  | setLocale _ => "host.set_locale"
  | destroy => "host.destroy"

structure HostToFrameMessage where
  envelope : BridgeEnvelope
  payload : HostPayload

def parseHostPayload (envelope : ParsedEnvelope) (expected : EmbedEnvelopeExpectation) :
    Option String → Parse HostToFrameMessage
  | some "host.init" => do
    rejectWhen (expected.sequence != ofInt 0 || expected.peerNonce.isSome)
      .invalidValue "Initialization is only valid as the first channel message."
    let payload ← exactRecord envelope.payload
      ["bootstrapNonce", "parentNonce", "contextHandle", "locale", "theme"]
      "initialization payload"
    let bootstrapNonce ← parseNonce (own payload "bootstrapNonce") "bootstrap nonce"
    let parentNonce ← parseNonce (own payload "parentNonce") "parent nonce"
    let contextHandle ← parseContextHandle (own payload "contextHandle")
    let locale ← parseLocale (own payload "locale")
    let theme ← parseTheme (own payload "theme")
    return ⟨withoutPeerNonce envelope,
      .init { bootstrapNonce, parentNonce, contextHandle, locale, theme }⟩
  | some "host.set_theme" => do
    requireEstablished expected
    let payload ← exactRecord envelope.payload ["theme"] "theme payload"
    let bridge ← withPeerNonce envelope
    let theme ← parseTheme (own payload "theme")
    return ⟨bridge, .setTheme theme⟩
  | some "host.set_locale" => do
    requireEstablished expected
    let payload ← exactRecord envelope.payload ["locale"] "locale payload"
    let bridge ← withPeerNonce envelope
    let locale ← parseLocale (own payload "locale")
    return ⟨bridge, .setLocale locale⟩
  | some "host.destroy" => do
    requireEstablished expected
    let _ ← exactRecord envelope.payload [] "destroy payload"
    let bridge ← withPeerNonce envelope
    return ⟨bridge, .destroy⟩
  | _ => protocolError .invalidValue "Unknown host message type."

def parseHostToFrameMessage (value : StructuredValue) (expected : EmbedEnvelopeExpectation) :
    Parse HostToFrameMessage := do
  let envelope ← parseEnvelope value expected
  parseHostPayload envelope expected (asciiText envelope.type)

/-- The message together with its initialization payload. -/
def parseHostInitialization (value : StructuredValue) (expectedBootstrapNonce : String) :
    Parse (BridgeEnvelope × HostInit) := do
  let envelope ← recordWithOptionalFields value baseEnvelopeFields optionalEnvelopeFields
    "bridge envelope"
  let channelId ← parseToken isValidEmbedChannelId "Embed channel ID is malformed."
    (own envelope "channelId")
  rejectWhen (!isText (own envelope "type") "host.init" ||
      !isInteger (own envelope "sequence") 0 || hasOwn envelope "peerNonce")
    .invalidValue "The first host message must be one-shot initialization."
  let message ← parseHostToFrameMessage value
    { channelId := channelId, sequence := ofInt 0, peerNonce := none }
  match message.payload with
  | .init payload =>
    if !isValidEmbedNonce expectedBootstrapNonce ||
        payload.bootstrapNonce != expectedBootstrapNonce then
      protocolError .nonceMismatch "The frame bootstrap nonce does not match."
    else return (message.envelope, payload)
  | _ => protocolError .invalidValue "Initialization message is invalid."

structure FrameBootstrapMessage where
  bootstrapNonce : String

def parseFrameBootstrapMessage (value : StructuredValue) : Parse FrameBootstrapMessage := do
  let message ← exactRecord value ["protocol", "version", "type", "bootstrapNonce"]
    "frame bootstrap message"
  rejectWhen (!isText (own message "protocol") embedProtocol ||
      !isInteger (own message "version") 1 ||
      !isText (own message "type") "frame.bootstrap_ready")
    .invalidValue "Frame bootstrap is invalid."
  let bootstrapNonce ← parseNonce (own message "bootstrapNonce") "bootstrap nonce"
  return { bootstrapNonce }

inductive EmbedLayout where
  | compact
  | regular
  | expanded

inductive AuthReason where
  | walletAuth
  | deviceEnrollment
  | storageRecovery

inductive EmbedTopLevelReason where
  | walletAuth
  | storageRecovery
  | userRequest

inductive FrameErrorCode where
  | contextInvalid
  | channelInvalid
  | temporarilyUnavailable
  deriving DecidableEq

inductive FramePayload where
  | ready (frameNonce : String)
  | layout (layout : EmbedLayout)
  | unread (hasUnread : Bool)
  | authRequired (reason : AuthReason)
  | openTopLevel (reason : EmbedTopLevelReason)
  | closed
  | error (code : FrameErrorCode) (retryable : Bool)

def FramePayload.type : FramePayload → String
  | ready _ => "frame.ready"
  | layout _ => "frame.layout"
  | unread _ => "frame.unread"
  | authRequired _ => "frame.auth_required"
  | openTopLevel _ => "frame.open_top_level"
  | closed => "frame.closed"
  | error _ _ => "frame.error"

structure FrameToHostMessage where
  envelope : BridgeEnvelope
  payload : FramePayload

/-- The shape the operational messages share: one exact payload, parsed on its own. -/
def operational (envelope : ParsedEnvelope) (expected : EmbedEnvelopeExpectation)
    (fields : List String) (label : String)
    (payload : List (Name × StructuredValue) → Parse FramePayload) :
    Parse FrameToHostMessage := do
  requireOperationalSequence expected
  let record ← exactRecord envelope.payload fields label
  let parsed ← payload record
  let bridge ← withPeerNonce envelope
  return ⟨bridge, parsed⟩

def parseFrameError (record : List (Name × StructuredValue)) : Parse FramePayload :=
  let code := isOneOf [("context-invalid", FrameErrorCode.contextInvalid),
    ("channel-invalid", .channelInvalid),
    ("temporarily-unavailable", .temporarilyUnavailable)] (own record "code")
  match code, own record "retryable" with
  | some code, some (.boolean retryable) =>
    if (code = .temporarilyUnavailable) != retryable then
      protocolError .invalidValue "Frame error retryability is invalid."
    else .ok (.error code retryable)
  | _, _ => protocolError .invalidValue "Frame error is invalid."

def parseFramePayload (envelope : ParsedEnvelope) (expected : EmbedEnvelopeExpectation) :
    Option String → Parse FrameToHostMessage
  | some "frame.ready" => do
    rejectWhen (expected.sequence != ofInt 0)
      .invalidValue "Ready is only valid as the first frame message."
    let payload ← exactRecord envelope.payload
      ["frameNonce", "acceptedVersion", "capabilities"] "ready payload"
    rejectWhen (!isInteger (own payload "acceptedVersion") 1 ||
        !isExactCapabilities (own payload "capabilities"))
      .invalidValue "Frame capabilities are malformed."
    let bridge ← withPeerNonce envelope
    let frameNonce ← parseNonce (own payload "frameNonce") "frame nonce"
    return ⟨bridge, .ready frameNonce⟩
  | some "frame.layout" =>
    operational envelope expected ["layout"] "layout payload" fun record =>
      match isOneOf [("compact", EmbedLayout.compact), ("regular", .regular),
          ("expanded", .expanded)] (own record "layout") with
      | some layout => .ok (.layout layout)
      | none => protocolError .invalidValue "Frame layout is invalid."
  | some "frame.unread" =>
    operational envelope expected ["hasUnread"] "unread payload" fun record =>
      match own record "hasUnread" with
      | some (.boolean hasUnread) => .ok (.unread hasUnread)
      | _ => protocolError .invalidValue "Unread state is invalid."
  | some "frame.auth_required" =>
    operational envelope expected ["reason"] "auth payload" fun record =>
      match isOneOf [("wallet-auth", AuthReason.walletAuth),
          ("device-enrollment", .deviceEnrollment),
          ("storage-recovery", .storageRecovery)] (own record "reason") with
      | some reason => .ok (.authRequired reason)
      | none => protocolError .invalidValue "Authentication reason is invalid."
  | some "frame.open_top_level" =>
    operational envelope expected ["reason"] "open payload" fun record =>
      match isOneOf [("wallet-auth", EmbedTopLevelReason.walletAuth),
          ("storage-recovery", .storageRecovery),
          ("user-request", .userRequest)] (own record "reason") with
      | some reason => .ok (.openTopLevel reason)
      | none => protocolError .invalidValue "Top-level reason is invalid."
  | some "frame.closed" =>
    operational envelope expected [] "closed payload" fun _ => .ok .closed
  | some "frame.error" =>
    operational envelope expected ["code", "retryable"] "error payload" parseFrameError
  | _ => protocolError .invalidValue "Unknown frame message type."

def parseFrameToHostMessage (value : StructuredValue) (expected : EmbedEnvelopeExpectation) :
    Parse FrameToHostMessage := do
  requirePeerNonce expected
  let envelope ← parseEnvelope value expected
  parseFramePayload envelope expected (asciiText envelope.type)

section

variable {envelope : ParsedEnvelope} {message : FrameToHostMessage}

open Foundation.Transaction

variable {value : StructuredValue} {expected : EmbedEnvelopeExpectation}

theorem parseEnvelope_eq_ok (parsed : parseEnvelope value expected = .ok envelope) :
    envelope.sequence = expected.sequence ∧
      ∀ requestId ∈ envelope.requestId, isRequestId requestId = true := by
  unfold parseEnvelope at parsed
  obtain ⟨_, -, parsed⟩ := bind_ok.mp parsed
  obtain ⟨record, -, parsed⟩ := bind_ok.mp parsed
  obtain ⟨_, -, parsed⟩ := bind_ok.mp parsed
  obtain ⟨_, -, parsed⟩ := bind_ok.mp parsed
  obtain ⟨_, -, parsed⟩ := bind_ok.mp parsed
  obtain ⟨_, -, parsed⟩ := bind_ok.mp parsed
  obtain ⟨requestId, hrequestId, parsed⟩ := bind_ok.mp parsed
  cases parsed
  refine ⟨rfl, ?_⟩
  intro text htext
  unfold parseOptionalRequestId at hrequestId
  split at hrequestId
  · cases hvalue : parseRequestId (own record "requestId") with
    | error e =>
      rw [hvalue] at hrequestId
      cases hrequestId
    | ok token =>
      rw [hvalue] at hrequestId
      cases hrequestId
      cases htext
      unfold parseRequestId parseToken at hvalue
      split at hvalue
      · split at hvalue
        · cases hvalue
          assumption
        · cases hvalue
      · cases hvalue
  · cases hrequestId
    cases htext

private theorem withPeerNonce_eq_ok {bridge : BridgeEnvelope}
    (given : withPeerNonce envelope = .ok bridge) :
    bridge.sequence = envelope.sequence ∧ bridge.requestId = envelope.requestId := by
  unfold withPeerNonce at given
  split at given
  · cases given
  · cases given
    exact ⟨rfl, rfl⟩

private theorem operational_eq_ok {fields : List String} {label : String}
    {payload : List (Name × StructuredValue) → Parse FramePayload}
    (parsed : operational envelope expected fields label payload = .ok message) :
    message.envelope.sequence = envelope.sequence ∧
      message.envelope.requestId = envelope.requestId := by
  obtain ⟨_, -, parsed⟩ := bind_ok.mp parsed
  obtain ⟨_, -, parsed⟩ := bind_ok.mp parsed
  obtain ⟨_, -, parsed⟩ := bind_ok.mp parsed
  obtain ⟨bridge, given, parsed⟩ := bind_ok.mp parsed
  cases parsed
  exact withPeerNonce_eq_ok given

theorem parseFrameToHostMessage_eq_ok
    (parsed : parseFrameToHostMessage value expected = .ok message) :
    message.envelope.sequence = expected.sequence ∧
      ∀ requestId ∈ message.envelope.requestId, isRequestId requestId = true := by
  obtain ⟨_, -, parsed⟩ := bind_ok.mp parsed
  obtain ⟨envelope, henvelope, parsed⟩ := bind_ok.mp parsed
  obtain ⟨sequence, requestIds⟩ := parseEnvelope_eq_ok henvelope
  suffices same : message.envelope.sequence = envelope.sequence ∧
      message.envelope.requestId = envelope.requestId by
    rw [same.1, same.2]
    exact ⟨sequence, requestIds⟩
  unfold parseFramePayload at parsed
  split at parsed
  · obtain ⟨_, -, parsed⟩ := bind_ok.mp parsed
    obtain ⟨_, -, parsed⟩ := bind_ok.mp parsed
    obtain ⟨_, -, parsed⟩ := bind_ok.mp parsed
    obtain ⟨bridge, given, parsed⟩ := bind_ok.mp parsed
    obtain ⟨_, -, parsed⟩ := bind_ok.mp parsed
    cases parsed
    exact withPeerNonce_eq_ok given
  · exact operational_eq_ok parsed
  · exact operational_eq_ok parsed
  · exact operational_eq_ok parsed
  · exact operational_eq_ok parsed
  · exact operational_eq_ok parsed
  · exact operational_eq_ok parsed
  · cases parsed

end

end JbChat.Embed.Protocol
