/- source: src/shared/protocol.ts
   digest: A support event that is written into an envelope is read back as it is. -/

import JbChat.Authority.CanonicalJson
import JbChat.Delivery.CanonicalBase64

/-!
A string is a list of code units, a value one that `JSON.parse` returns, and a missing property
is `none`. Numbers are compared as by `===`, which does not tell the two zeros apart.
-/

set_option autoImplicit false

namespace JbChat.Domain.SupportCodec

open Foundation Foundation.CodeUnits Foundation.CanonicalJson Foundation.HashTrace
open Foundation.JsonGrammar Foundation.Transaction Authority.CanonicalJson Authority.ValueObjects
open Delivery.CanonicalBase64 Delivery.StrictJsonBytes Delivery.ValueObjects

abbrev Units := List Nat

instance (units : Units) : Decidable (AreUnits units) :=
  inferInstanceAs (Decidable (∀ unit ∈ units, unit < 0x10000))

/-- A string with its length within bounds. -/
abbrev Text (minimum maximum : Nat) :=
  { units : Units // AreUnits units ∧ minimum ≤ units.length ∧ units.length ≤ maximum }

def isAlphanumeric (unit : Nat) : Bool :=
  decide (65 ≤ unit ∧ unit ≤ 90) || decide (97 ≤ unit ∧ unit ≤ 122) ||
    decide (48 ≤ unit ∧ unit ≤ 57)

/-- `/^[A-Za-z0-9][A-Za-z0-9._:-]{0,127}$/`. -/
def isIdentifier : Units → Bool
  | [] => false
  | first :: rest => isAlphanumeric first && decide (rest.length ≤ 127) &&
      rest.all fun unit => isAlphanumeric unit || decide (unit ∈ [46, 95, 58, 45])

abbrev Identifier := { text : Text 1 128 // isIdentifier text.1 = true }

abbrev SafeInteger (minimum : Int) :=
  { value : Int // minimum ≤ value ∧ value.natAbs ≤ maxSafeInteger }

/-- `dateParses` says of which texts `Date.parse` makes a finite number. -/
abbrev Timestamp (dateParses : Units → Bool) := { text : Text 1 64 // dateParses text.1 = true }

structure ShippingAddress where
  recipientName : Text 0 512
  line1 : Text 0 512
  line2 : Text 0 512
  city : Text 0 512
  region : Text 0 512
  postalCode : Text 0 128
  country : Text 0 256
  deliveryNote : Text 0 240

/-- Fingerprints without a repetition, and at least one. -/
abbrev Fingerprints :=
  { fingerprints : List (Text 1 256) // fingerprints ≠ [] ∧ fingerprints.Nodup }

structure RosterBinding where
  rosterVersion : Text 1 128
  mlsEpoch : SafeInteger 0
  recipientDeviceFingerprints : Fingerprints

inductive FulfillmentStatus where
  | preparing
  | shipped

/-- What an event says, by its kind. -/
inductive Content where
  | text (body : Text 1 4000)
  | addressRequest (reason : Text 1 1000)
  | shippingAddress (addressId : Identifier) (version : SafeInteger 1) (address : ShippingAddress)
      (approvedRoster : RosterBinding)
  | shippingAddressCorrection (correctionId : Identifier) (correctionVersion : SafeInteger 1)
      (shippedAddressId : Identifier) (shippedAddressVersion : SafeInteger 1)
      (address : ShippingAddress) (approvedRoster : RosterBinding)
  | addressAck (addressId : Identifier) (addressVersion : SafeInteger 1)
  | fulfillmentStatus (status : FulfillmentStatus) (addressId : Identifier)
      (addressVersion : SafeInteger 1)
  | tracking (carrier : Text 1 200) (trackingCode : Text 1 300) (addressId : Identifier)
      (addressVersion : SafeInteger 1)

structure SupportEvent (dateParses : Units → Bool) where
  id : Text 1 128
  createdAt : Timestamp dateParses
  content : Content

section

/-- What is parsed, or the message of a `SharedProtocolError`. -/
abbrev Parsed := Except String

variable {α : Type}

def invalidResponse (message : String) : Parsed α :=
  .error ("Invalid development-service response: " ++ message ++ ".")

def property (name : String) : List (Name × Json) → Option Json
  | [] => none
  | (other, value) :: members =>
    match property name members with
    | some later => some later
    | none => if other = codeUnits name then some value else none

def expectRecord (value : Option Json) (field : String) : Parsed (List (Name × Json)) :=
  match value with
  | some (.object members) => .ok members
  | _ => invalidResponse (field ++ " must be an object")

def expectBoundedString (value : Option Json) (field : String) (minimum maximum : Nat) :
    Parsed (Text minimum maximum) :=
  match value with
  | some (.string units) =>
    if h : AreUnits units ∧ minimum ≤ units.length ∧ units.length ≤ maximum then .ok ⟨units, h⟩
    else invalidResponse (field ++ " is invalid")
  | _ => invalidResponse (field ++ " is invalid")

def expectIdentifier (value : Option Json) (field : String) : Parsed Identifier := do
  let result ← expectBoundedString value field 1 128
  if h : isIdentifier result.1 = true then .ok ⟨result, h⟩
  else invalidResponse (field ++ " is invalid")

def expectInteger (value : Option Json) (field : String) (minimum : Int) :
    Parsed (SafeInteger minimum) :=
  match value with
  | some (.number number) =>
    match integerOf number with
    | some integer =>
      if h : minimum ≤ integer ∧ integer.natAbs ≤ maxSafeInteger then .ok ⟨integer, h⟩
      else invalidResponse (field ++ " is invalid")
    | none => invalidResponse (field ++ " is invalid")
  | _ => invalidResponse (field ++ " is invalid")

variable (dateParses : Units → Bool)

def expectTimestamp (value : Option Json) (field : String) : Parsed (Timestamp dateParses) := do
  let result ← expectBoundedString value field 1 64
  if h : dateParses result.1 = true then .ok ⟨result, h⟩
  else invalidResponse (field ++ " is invalid")

def parseShippingAddress (value : Option Json) : Parsed ShippingAddress := do
  let object ← expectRecord value "shipping address"
  let recipientName ← expectBoundedString (property "recipientName" object) "recipientName" 0 512
  let line1 ← expectBoundedString (property "line1" object) "line1" 0 512
  let line2 ← expectBoundedString (property "line2" object) "line2" 0 512
  let city ← expectBoundedString (property "city" object) "city" 0 512
  let region ← expectBoundedString (property "region" object) "region" 0 512
  let postalCode ← expectBoundedString (property "postalCode" object) "postalCode" 0 128
  let country ← expectBoundedString (property "country" object) "country" 0 256
  let deliveryNote ← expectBoundedString (property "deliveryNote" object) "deliveryNote" 0 240
  .ok { recipientName, line1, line2, city, region, postalCode, country, deliveryNote }

/-- `map` over the entries, with the index of each. -/
def parseFingerprints (index : Nat) : List Json → Parsed (List (Text 1 256))
  | [] => .ok []
  | entry :: entries => do
    let fingerprint ← expectBoundedString (some entry)
      ("approved roster fingerprint " ++ toString index) 1 256
    let fingerprints ← parseFingerprints (index + 1) entries
    .ok (fingerprint :: fingerprints)

def checkFingerprints (fingerprints : List (Text 1 256)) : Parsed Fingerprints :=
  if h : fingerprints ≠ [] ∧ fingerprints.Nodup then .ok ⟨fingerprints, h⟩
  else invalidResponse "approved roster fingerprints are invalid"

def parseRosterBinding (value : Option Json) : Parsed RosterBinding := do
  let object ← expectRecord value "approved roster"
  match property "recipientDeviceFingerprints" object with
  | some (.array entries) => do
    let fingerprints ← parseFingerprints 0 entries
    let recipientDeviceFingerprints ← checkFingerprints fingerprints
    let rosterVersion ←
      expectBoundedString (property "rosterVersion" object) "approved roster version" 1 128
    let mlsEpoch ← expectInteger (property "mlsEpoch" object) "approved roster epoch" 0
    .ok { rosterVersion, mlsEpoch, recipientDeviceFingerprints }
  | _ => invalidResponse "approved roster fingerprints must be an array"

def parseStatus (value : Option Json) : Parsed FulfillmentStatus :=
  match value with
  | some (.string units) =>
    if units = codeUnits "preparing" then .ok .preparing
    else if units = codeUnits "shipped" then .ok .shipped
    else invalidResponse "fulfillment status is invalid"
  | _ => invalidResponse "fulfillment status is invalid"

/-- The branches of `parseSupportEvent` by the kind. -/
def parseContent (object : List (Name × Json)) (kind : Units) : Parsed Content :=
  if kind = codeUnits "text.v1" then do
    let body ← expectBoundedString (property "body" object) "text body" 1 4000
    .ok (.text body)
  else if kind = codeUnits "address_request.v1" then do
    let reason ← expectBoundedString (property "reason" object) "address request reason" 1 1000
    .ok (.addressRequest reason)
  else if kind = codeUnits "shipping_address.v1" then do
    let addressId ← expectIdentifier (property "addressId" object) "addressId"
    let version ← expectInteger (property "version" object) "address version" 1
    let address ← parseShippingAddress (property "address" object)
    let approvedRoster ← parseRosterBinding (property "approvedRoster" object)
    .ok (.shippingAddress addressId version address approvedRoster)
  else if kind = codeUnits "shipping_address_correction.v1" then do
    let correctionId ← expectIdentifier (property "correctionId" object) "correctionId"
    let correctionVersion ←
      expectInteger (property "correctionVersion" object) "correction version" 1
    let shippedAddressId ← expectIdentifier (property "shippedAddressId" object) "shippedAddressId"
    let shippedAddressVersion ←
      expectInteger (property "shippedAddressVersion" object) "shipped address version" 1
    let address ← parseShippingAddress (property "address" object)
    let approvedRoster ← parseRosterBinding (property "approvedRoster" object)
    .ok (.shippingAddressCorrection correctionId correctionVersion shippedAddressId
      shippedAddressVersion address approvedRoster)
  else if kind = codeUnits "address_ack.v1" then do
    let addressId ← expectIdentifier (property "addressId" object) "addressId"
    let addressVersion ← expectInteger (property "addressVersion" object) "address version" 1
    .ok (.addressAck addressId addressVersion)
  else if kind = codeUnits "fulfillment_status.v1" then do
    let status ← parseStatus (property "status" object)
    let addressId ← expectIdentifier (property "addressId" object) "addressId"
    let addressVersion ← expectInteger (property "addressVersion" object) "address version" 1
    .ok (.fulfillmentStatus status addressId addressVersion)
  else if kind = codeUnits "tracking.v1" then do
    let carrier ← expectBoundedString (property "carrier" object) "carrier" 1 200
    let trackingCode ← expectBoundedString (property "trackingCode" object) "tracking code" 1 300
    let addressId ← expectIdentifier (property "addressId" object) "addressId"
    let addressVersion ← expectInteger (property "addressVersion" object) "address version" 1
    .ok (.tracking carrier trackingCode addressId addressVersion)
  else invalidResponse "support event kind is unsupported"

def parseSupportEvent (value : Option Json) : Parsed (SupportEvent dateParses) := do
  let object ← expectRecord value "support event"
  let id ← expectBoundedString (property "id" object) "support event id" 1 128
  let createdAt ← expectTimestamp dateParses (property "createdAt" object) "support event createdAt"
  match property "kind" object with
  | some (.string kind) => do
    let content ← parseContent object kind
    .ok { id, createdAt, content }
  | _ => invalidResponse "support event kind is unsupported"

end

/-- A property of an object literal. -/
def entry (name : String) (value : Json) : Name × Json := (codeUnits name, value)

def stringJson (text : String) : Json := .string (codeUnits text)

def integerJson {minimum : Int} (value : SafeInteger minimum) : Json :=
  .number (integerDouble value.1)

def addressJson (address : ShippingAddress) : Json :=
  .object [entry "recipientName" (.string address.recipientName.1),
    entry "line1" (.string address.line1.1), entry "line2" (.string address.line2.1),
    entry "city" (.string address.city.1), entry "region" (.string address.region.1),
    entry "postalCode" (.string address.postalCode.1),
    entry "country" (.string address.country.1),
    entry "deliveryNote" (.string address.deliveryNote.1)]

def rosterJson (binding : RosterBinding) : Json :=
  .object [entry "rosterVersion" (.string binding.rosterVersion.1),
    entry "mlsEpoch" (integerJson binding.mlsEpoch),
    entry "recipientDeviceFingerprints" (.array (binding.recipientDeviceFingerprints.1.map
      fun fingerprint => .string fingerprint.1))]

def statusText : FulfillmentStatus → String
  | .preparing => "preparing"
  | .shipped => "shipped"

def kindText : Content → String
  | .text _ => "text.v1"
  | .addressRequest _ => "address_request.v1"
  | .shippingAddress .. => "shipping_address.v1"
  | .shippingAddressCorrection .. => "shipping_address_correction.v1"
  | .addressAck .. => "address_ack.v1"
  | .fulfillmentStatus .. => "fulfillment_status.v1"
  | .tracking .. => "tracking.v1"

def contentEntries : Content → List (Name × Json)
  | .text body => [entry "body" (.string body.1)]
  | .addressRequest reason => [entry "reason" (.string reason.1)]
  | .shippingAddress addressId version address approvedRoster =>
    [entry "addressId" (.string addressId.1.1), entry "version" (integerJson version),
      entry "address" (addressJson address), entry "approvedRoster" (rosterJson approvedRoster)]
  | .shippingAddressCorrection correctionId correctionVersion shippedAddressId
      shippedAddressVersion address approvedRoster =>
    [entry "correctionId" (.string correctionId.1.1),
      entry "correctionVersion" (integerJson correctionVersion),
      entry "shippedAddressId" (.string shippedAddressId.1.1),
      entry "shippedAddressVersion" (integerJson shippedAddressVersion),
      entry "address" (addressJson address), entry "approvedRoster" (rosterJson approvedRoster)]
  | .addressAck addressId addressVersion =>
    [entry "addressId" (.string addressId.1.1),
      entry "addressVersion" (integerJson addressVersion)]
  | .fulfillmentStatus status addressId addressVersion =>
    [entry "status" (stringJson (statusText status)),
      entry "addressId" (.string addressId.1.1),
      entry "addressVersion" (integerJson addressVersion)]
  | .tracking carrier trackingCode addressId addressVersion =>
    [entry "carrier" (.string carrier.1), entry "trackingCode" (.string trackingCode.1),
      entry "addressId" (.string addressId.1.1),
      entry "addressVersion" (integerJson addressVersion)]

/-- The object that `parseSupportEvent` returns. -/
def eventJson {dateParses : Units → Bool} (event : SupportEvent dateParses) : Json :=
  .object (entry "id" (.string event.id.1) :: entry "createdAt" (.string event.createdAt.1.1) ::
    entry "kind" (stringJson (kindText event.content)) :: contentEntries event.content)

section

mutual

/-- `JSON.stringify` of a value whose numbers are integers. -/
def stringify : Json → List Char
  | .null => ['n', 'u', 'l', 'l']
  | .boolean true => ['t', 'r', 'u', 'e']
  | .boolean false => ['f', 'a', 'l', 's', 'e']
  | .number number => integerText ((integerOf number).getD 0)
  | .string units => quote units
  | .array values => '[' :: separated (stringifyValues values) ++ [']']
  | .object members => '\x7b' :: separated (stringifyMembers members) ++ ['\x7d']

def stringifyValues : List Json → List (List Char)
  | [] => []
  | value :: values => stringify value :: stringifyValues values

def stringifyMembers : List (Name × Json) → List (List Char)
  | [] => []
  | (name, value) :: members => (quote name ++ ':' :: stringify value) :: stringifyMembers members

end

open Classical in
/-- `JSON.parse`, by the grammar of its texts. -/
noncomputable def jsonParse (text : List Char) : Option Json :=
  if h : ∃ value, JsonText text value then some h.choose else none

/-- The chunks of the bytes, one behind the other. -/
def binaryText (bytes : Bytes) : Bytes :=
  if _h : bytes = [] then [] else bytes.take 16384 ++ binaryText (bytes.drop 16384)
termination_by bytes.length
decreasing_by
  have := List.length_pos_iff.mpr ‹_›
  rw [List.length_drop]
  omega

def toStandard (c : Char) : Char := if c = '-' then '+' else if c = '_' then '/' else c

def fromStandard (c : Char) : Char := if c = '+' then '-' else if c = '/' then '_' else c

def btoa (bytes : Bytes) : List Char :=
  let chars := (Base64Url.encodeChars bytes).map toStandard
  chars ++ List.replicate ((4 - chars.length % 4) % 4) '='

def standardAlphabet : List Char := Base64Url.alphabet.map toStandard

def dropPadding (chars : List Char) : List Char :=
  if chars.getLast? = some '=' then chars.dropLast else chars

/-- The forgiving decoder: up to two padding characters complete a group of four. -/
def atob (text : List Char) : Option Bytes :=
  let chars := if text.length % 4 = 0 then dropPadding (dropPadding text) else text
  if chars.length % 4 = 1 ∨ ¬ ∀ c ∈ chars, c ∈ standardAlphabet then none
  else some (Base64Url.decodeSextets (chars.filterMap Base64Url.sextet))

def bytesToBase64Url (bytes : Bytes) : Units :=
  (((btoa (binaryText bytes)).map fromStandard).rdropWhile (· = '=')).map Char.toNat

def base64UrlToBytes (value : Units) : Option Bytes :=
  if value = [] ∨ ¬ ∀ unit ∈ value, unit ∈ alphabetUnits then none
  else
    let chars := (textOf value).toList.map toStandard
    atob (chars ++ List.replicate ((4 - chars.length % 4) % 4) '=')

def dropByteOrderMark : List Char → List Char
  | c :: chars => if c.toNat = 0xFEFF then chars else c :: chars
  | [] => []

def simulatedPayloadMarker : String := "JUICEBOX_HTTP_LAN_SIMULATION_NOT_E2EE_V1"

variable (dateParses : Units → Bool)

def payloadText (event : SupportEvent dateParses) : List Char :=
  stringify (.object [entry "simulationWarning" (stringJson simulatedPayloadMarker),
    entry "event" (eventJson event)])

def encodeSimulatedSupportEvent (event : Option Json) : Parsed Units := do
  let validatedEvent ← parseSupportEvent dateParses event
  .ok (bytesToBase64Url (utf8 (String.ofList (payloadText dateParses validatedEvent))))

noncomputable def decodePayload (ciphertext : Units) : Option Json := do
  let bytes ← base64UrlToBytes ciphertext
  let text ← decodeUtf8 bytes
  jsonParse (dropByteOrderMark text.toList)

noncomputable def decodeSimulatedSupportEvent (ciphertext : Units) :
    Parsed (SupportEvent dateParses) :=
  match decodePayload ciphertext with
  | none => invalidResponse "simulated envelope payload could not be decoded"
  | some decoded => do
    let wrapper ← expectRecord (some decoded) "simulated envelope payload"
    match property "simulationWarning" wrapper with
    | some (.string marker) =>
      if marker = codeUnits simulatedPayloadMarker then
        parseSupportEvent dateParses (property "event" wrapper)
      else invalidResponse "envelope is not a supported simulated payload"
    | _ => invalidResponse "envelope is not a supported simulated payload"

end

section

@[simp] theorem property_nil (name : String) : property name [] = none := rfl

theorem property_entry (name other : String) (value : Json) (members : List (Name × Json)) :
    property name (entry other value :: members) =
      match property name members with
      | some later => some later
      | none => if other = name then some value else none := by
  simp only [property, entry, CodeUnits.codeUnits_inj]

theorem expectBoundedString_text {minimum maximum : Nat} (text : Text minimum maximum)
    (field : String) :
    expectBoundedString (some (.string text.1)) field minimum maximum = .ok text := by
  unfold expectBoundedString
  exact dif_pos text.2

theorem expectIdentifier_identifier (identifier : Identifier) (field : String) :
    expectIdentifier (some (.string identifier.1.1)) field = .ok identifier := by
  unfold expectIdentifier
  rw [expectBoundedString_text]
  exact dif_pos identifier.2

theorem expectInteger_integer {minimum : Int} (value : SafeInteger minimum) (field : String) :
    expectInteger (some (integerJson value)) field minimum = .ok value := by
  unfold expectInteger integerJson
  dsimp only
  rw [integerOf_integerDouble value.2.2]
  exact dif_pos value.2

variable {dateParses : Units → Bool}

theorem expectTimestamp_timestamp (timestamp : Timestamp dateParses) (field : String) :
    expectTimestamp dateParses (some (.string timestamp.1.1)) field = .ok timestamp := by
  unfold expectTimestamp
  rw [expectBoundedString_text]
  exact dif_pos timestamp.2

theorem parseShippingAddress_address (address : ShippingAddress) :
    parseShippingAddress (some (addressJson address)) = .ok address := by
  simp [parseShippingAddress, addressJson, expectRecord, property_entry,
    expectBoundedString_text, bind, Except.bind]

theorem parseFingerprints_map (fingerprints : List (Text 1 256)) (index : Nat) :
    parseFingerprints index (fingerprints.map fun fingerprint => .string fingerprint.1) =
      .ok fingerprints := by
  induction fingerprints generalizing index with
  | nil => rfl
  | cons fingerprint fingerprints ih =>
    rw [List.map_cons, parseFingerprints, expectBoundedString_text]
    simp only [bind, Except.bind, ih]

theorem parseRosterBinding_roster (binding : RosterBinding) :
    parseRosterBinding (some (rosterJson binding)) = .ok binding := by
  have hchecked : checkFingerprints binding.recipientDeviceFingerprints.1 =
      .ok binding.recipientDeviceFingerprints := dif_pos binding.recipientDeviceFingerprints.2
  simp [parseRosterBinding, rosterJson, expectRecord, property_entry, expectBoundedString_text,
    expectInteger_integer, parseFingerprints_map, hchecked, bind, Except.bind, -List.map_subtype]

theorem parseStatus_status (status : FulfillmentStatus) :
    parseStatus (some (stringJson (statusText status))) = .ok status := by
  cases status <;> simp [parseStatus, stringJson, statusText, CodeUnits.codeUnits_inj]

theorem parseContent_content (id createdAt kind : Json) (content : Content) :
    parseContent (entry "id" id :: entry "createdAt" createdAt :: entry "kind" kind ::
      contentEntries content) (codeUnits (kindText content)) = .ok content := by
  cases content with
  | text body =>
    simp [parseContent, contentEntries, kindText, property_entry, expectBoundedString_text, bind,
      Except.bind]
  | addressRequest reason =>
    simp [parseContent, contentEntries, kindText, property_entry, expectBoundedString_text,
      CodeUnits.codeUnits_inj, bind, Except.bind]
  | shippingAddress addressId version address approvedRoster =>
    simp [parseContent, contentEntries, kindText, property_entry, expectIdentifier_identifier,
      expectInteger_integer, parseShippingAddress_address, parseRosterBinding_roster,
      CodeUnits.codeUnits_inj, bind, Except.bind]
  | shippingAddressCorrection correctionId correctionVersion shippedAddressId
      shippedAddressVersion address approvedRoster =>
    simp [parseContent, contentEntries, kindText, property_entry, expectIdentifier_identifier,
      expectInteger_integer, parseShippingAddress_address, parseRosterBinding_roster,
      CodeUnits.codeUnits_inj, bind, Except.bind]
  | addressAck addressId addressVersion =>
    simp [parseContent, contentEntries, kindText, property_entry, expectIdentifier_identifier,
      expectInteger_integer, CodeUnits.codeUnits_inj, bind, Except.bind]
  | fulfillmentStatus status addressId addressVersion =>
    simp [parseContent, contentEntries, kindText, property_entry, expectIdentifier_identifier,
      expectInteger_integer, parseStatus_status, CodeUnits.codeUnits_inj, bind, Except.bind]
  | tracking carrier trackingCode addressId addressVersion =>
    simp [parseContent, contentEntries, kindText, property_entry, expectBoundedString_text,
      expectIdentifier_identifier, expectInteger_integer, CodeUnits.codeUnits_inj, bind,
      Except.bind]

theorem property_front {name : String} (id createdAt kind : Json) (content : Content)
    (h : property name (contentEntries content) = none) :
    property name (entry "id" id :: entry "createdAt" createdAt :: entry "kind" kind ::
      contentEntries content) =
        if "kind" = name then some kind
        else if "createdAt" = name then some createdAt
        else if "id" = name then some id else none := by
  simp only [property_entry, h]
  split_ifs <;> rfl

theorem contentEntries_front {name : String} (h : name = "id" ∨ name = "createdAt" ∨ name = "kind")
    (content : Content) : property name (contentEntries content) = none := by
  rcases h with rfl | rfl | rfl <;> cases content <;> simp [contentEntries, property_entry]

theorem parseSupportEvent_event (event : SupportEvent dateParses) :
    parseSupportEvent dateParses (some (eventJson event)) = .ok event := by
  have hid := contentEntries_front (Or.inl rfl) event.content
  have hcreated := contentEntries_front (Or.inr (Or.inl rfl)) event.content
  have hkind := contentEntries_front (Or.inr (Or.inr rfl)) event.content
  unfold parseSupportEvent eventJson
  simp only [expectRecord, bind, Except.bind]
  rw [property_front _ _ _ _ hid, property_front _ _ _ _ hcreated, property_front _ _ _ _ hkind]
  simp [expectBoundedString_text, expectTimestamp_timestamp, stringJson, parseContent_content]

end

def Written (value : Json) : Prop := ValueText (stringify value) value

theorem stringifyValues_eq (values : List Json) :
    stringifyValues values = values.map stringify := by
  induction values with
  | nil => rfl
  | cons value values ih => rw [stringifyValues, ih, List.map_cons]

theorem written_string {units : Units} (h : AreUnits units) : Written (.string units) :=
  .string (quoteUnits_body h)

theorem written_integer {minimum : Int} (value : SafeInteger minimum) :
    Written (integerJson value) := by
  unfold Written integerJson stringify
  rw [integerOf_integerDouble value.2.2]
  exact integerText_written value.1

theorem written_array {values : List Json} (h : ∀ value ∈ values, Written value) :
    Written (.array values) := by
  unfold Written stringify
  rw [stringifyValues_eq]
  refine array_written ?_
  rw [List.forall₂_map_left_iff]
  exact List.forall₂_same.mpr h

theorem written_object {members : List (Name × Json)}
    (h : ∀ member ∈ members, AreUnits member.1 ∧ Written member.2) :
    Written (.object members) := by
  have texts : List.Forall₂ MemberWritten (stringifyMembers members) members := by
    induction members with
    | nil => exact .nil
    | cons member members ih =>
      rw [List.forall_mem_cons] at h
      exact .cons ⟨stringify member.2, h.1.1, h.1.2, rfl⟩ (ih h.2)
  unfold Written stringify
  exact object_written texts

theorem areUnits_codeUnits (text : String) : AreUnits (codeUnits text) := by
  intro unit hunit
  obtain ⟨c, -, hc⟩ := List.mem_flatMap.mp hunit
  exact CodeUnits.charUnits_lt hc

theorem written_entry {name : String} {value : Json} (h : Written value) :
    AreUnits (entry name value).1 ∧ Written (entry name value).2 :=
  ⟨areUnits_codeUnits name, h⟩

theorem written_text {minimum maximum : Nat} (text : Text minimum maximum) :
    Written (.string text.1) :=
  written_string text.2.1

theorem written_address (address : ShippingAddress) : Written (addressJson address) := by
  refine written_object ?_
  simp only [List.forall_mem_cons, List.not_mem_nil, false_implies, implies_true, and_true]
  refine ⟨?_, ?_, ?_, ?_, ?_, ?_, ?_, ?_⟩ <;> exact written_entry (written_text _)

theorem written_roster (binding : RosterBinding) : Written (rosterJson binding) := by
  refine written_object ?_
  simp only [List.forall_mem_cons, List.not_mem_nil, false_implies, implies_true, and_true]
  refine ⟨written_entry (written_text _), written_entry (written_integer _), written_entry ?_⟩
  refine written_array fun value hvalue => ?_
  obtain ⟨fingerprint, -, rfl⟩ := List.mem_map.mp hvalue
  exact written_text fingerprint

theorem written_content (content : Content) :
    ∀ member ∈ contentEntries content, AreUnits member.1 ∧ Written member.2 := by
  cases content <;>
    simp only [contentEntries, List.forall_mem_cons, List.not_mem_nil, false_implies,
      implies_true, and_true, written_entry, written_text, written_integer, written_address,
      written_roster, stringJson, written_string, areUnits_codeUnits]

theorem written_payload {dateParses : Units → Bool} (event : SupportEvent dateParses) :
    Written (.object [entry "simulationWarning" (stringJson simulatedPayloadMarker),
      entry "event" (eventJson event)]) := by
  have hevent : Written (eventJson event) := by
    refine written_object ?_
    simp only [List.forall_mem_cons]
    exact ⟨written_entry (written_text _), written_entry (written_text _),
      written_entry (written_string (areUnits_codeUnits _)), written_content event.content⟩
  refine written_object ?_
  simp only [List.forall_mem_cons, List.not_mem_nil, false_implies, implies_true, and_true]
  exact ⟨written_entry (written_string (areUnits_codeUnits _)), written_entry hevent⟩

theorem jsonParse_eq {text : List Char} {value : Json} (h : JsonText text value) :
    jsonParse text = some value := by
  have hex : ∃ value, JsonText text value := ⟨value, h⟩
  unfold jsonParse
  rw [dif_pos hex]
  exact congrArg some (jsonText_unique hex.choose_spec h)

theorem binaryText_eq (bytes : Bytes) : binaryText bytes = bytes := by
  induction bytes using binaryText.induct with
  | case1 => simp [binaryText]
  | case2 bytes h ih => rw [binaryText, dif_neg h, ih, List.take_append_drop]

theorem standard_of_mem {c : Char} (h : c ∈ Base64Url.alphabet) :
    fromStandard (toStandard c) = c ∧ c ≠ '=' ∧ toStandard c ≠ '=' ∧
      Base64Url.sextet (toStandard c) = some (Base64Url.alphabet.idxOf c) := by
  have hall : (Base64Url.alphabet.all fun c => decide (fromStandard (toStandard c) = c ∧
      c ≠ '=' ∧ toStandard c ≠ '=' ∧
        Base64Url.sextet (toStandard c) = some (Base64Url.alphabet.idxOf c))) = true := by
    unfold Base64Url.sextet
    rw [Base64Url.alphabet_eq]
    rfl
  exact of_decide_eq_true (List.all_eq_true.mp hall c h)

theorem rdropWhile_padding {chars : List Char} (h : '=' ∉ chars) (n : Nat) :
    (chars ++ List.replicate n '=').rdropWhile (· = '=') = chars := by
  induction n with
  | zero =>
    rw [List.replicate_zero, List.append_nil, List.rdropWhile_eq_self_iff]
    intro hne hlast
    exact h (of_decide_eq_true hlast ▸ List.getLast_mem hne)
  | succ n ih =>
    rw [List.replicate_succ', ← List.append_assoc, List.rdropWhile_concat_pos _ _ _ (by decide), ih]

theorem bytesToBase64Url_eq (bytes : Bytes) :
    bytesToBase64Url bytes = codeUnits (Base64Url.encode bytes) := by
  have hback : ((Base64Url.encodeChars bytes).map toStandard).map fromStandard =
      Base64Url.encodeChars bytes := by
    rw [List.map_map]
    exact (List.map_congr_left fun c hc =>
      (standard_of_mem (Base64Url.encodeChars_mem hc)).1).trans (List.map_id _)
  have hplain : '=' ∉ Base64Url.encodeChars bytes := fun hmem =>
    (standard_of_mem (Base64Url.encodeChars_mem hmem)).2.1 rfl
  have hpadding : fromStandard '=' = '=' := rfl
  unfold bytesToBase64Url btoa
  rw [binaryText_eq, List.map_append, hback, List.map_replicate, hpadding,
    rdropWhile_padding hplain, codeUnits_encode]

theorem dropPadding_plain {chars : List Char} (h : '=' ∉ chars) : dropPadding chars = chars := by
  unfold dropPadding
  exact if_neg fun hlast => h (List.mem_of_getLast? hlast)

theorem dropPadding_concat (chars : List Char) : dropPadding (chars ++ ['=']) = chars := by
  unfold dropPadding
  rw [if_pos List.getLast?_concat, List.dropLast_concat]

theorem atob_padded {chars : List Char} (h : ∀ c ∈ chars, c ∈ standardAlphabet)
    (plain : '=' ∉ chars) (hlength : chars.length % 4 ≠ 1) :
    atob (chars ++ List.replicate ((4 - chars.length % 4) % 4) '=') =
      some (Base64Url.decodeSextets (chars.filterMap Base64Url.sextet)) := by
  have hfour : (chars ++ List.replicate ((4 - chars.length % 4) % 4) '=').length % 4 = 0 := by
    rw [List.length_append, List.length_replicate]
    omega
  have hstripped : dropPadding (dropPadding
      (chars ++ List.replicate ((4 - chars.length % 4) % 4) '=')) = chars := by
    have hcases : (4 - chars.length % 4) % 4 = 0 ∨ (4 - chars.length % 4) % 4 = 1 ∨
        (4 - chars.length % 4) % 4 = 2 := by omega
    rcases hcases with hn | hn | hn <;> rw [hn]
    · rw [List.replicate_zero, List.append_nil, dropPadding_plain plain, dropPadding_plain plain]
    · rw [List.replicate_one, dropPadding_concat, dropPadding_plain plain]
    · rw [List.replicate_succ', ← List.append_assoc, dropPadding_concat, List.replicate_one,
        dropPadding_concat]
  unfold atob
  dsimp only
  rw [if_pos hfour, hstripped, if_neg]
  rintro (hone | hother)
  · exact hlength hone
  · exact hother h

theorem base64UrlToBytes_eq {bytes : Bytes} (present : bytes ≠ []) :
    base64UrlToBytes (codeUnits (Base64Url.encode bytes)) = some bytes := by
  have hmem : ∀ c ∈ Base64Url.encodeChars bytes, c ∈ Base64Url.alphabet :=
    fun c hc => Base64Url.encodeChars_mem hc
  have hcount := Base64Url.encodeChars_length bytes
  have hpositive := List.length_pos_iff.mpr present
  have hnonempty : codeUnits (Base64Url.encode bytes) ≠ [] := by
    rw [codeUnits_encode]
    intro hnil
    rw [List.map_eq_nil_iff.mp hnil, List.length_nil] at hcount
    omega
  have hunits : ∀ unit ∈ codeUnits (Base64Url.encode bytes), unit ∈ alphabetUnits := by
    intro unit hunit
    rw [codeUnits_encode] at hunit
    obtain ⟨c, hc, rfl⟩ := List.mem_map.mp hunit
    exact List.mem_map_of_mem (hmem c hc)
  have hstandard : ∀ c ∈ (Base64Url.encodeChars bytes).map toStandard, c ∈ standardAlphabet := by
    intro c hc
    obtain ⟨d, hd, rfl⟩ := List.mem_map.mp hc
    exact List.mem_map_of_mem (hmem d hd)
  have hplain : '=' ∉ (Base64Url.encodeChars bytes).map toStandard := by
    intro hc
    obtain ⟨d, hd, hpad⟩ := List.mem_map.mp hc
    exact (standard_of_mem (hmem d hd)).2.2.1 hpad
  have hsextets : ((Base64Url.encodeChars bytes).map toStandard).filterMap Base64Url.sextet =
      (Base64Url.encodeChars bytes).map Base64Url.alphabet.idxOf := by
    rw [List.filterMap_map, ← List.filterMap_eq_map]
    exact List.filterMap_congr fun c hc => (standard_of_mem (hmem c hc)).2.2.2
  have hdecoded : Base64Url.decodeSextets
      ((Base64Url.encodeChars bytes).map Base64Url.alphabet.idxOf) = bytes := by
    have hdecode := Base64Url.decode_encode bytes
    have hread : Base64Url.sextetsOf (Base64Url.encode bytes) =
        (Base64Url.encode bytes).toList.map Base64Url.alphabet.idxOf :=
      Base64Url.sextetsOf_eq (by rw [Base64Url.encode, String.toList_ofList]; exact hmem)
    rw [Base64Url.encode, String.toList_ofList] at hread
    rw [← hread]
    exact hdecode
  unfold base64UrlToBytes
  rw [if_neg (not_or.mpr ⟨hnonempty, not_not.mpr hunits⟩), textOf_codeUnits, Base64Url.encode,
    String.toList_ofList]
  dsimp only
  rw [atob_padded hstandard hplain (by rw [List.length_map]; omega), hsextets, hdecoded]

section

variable {dateParses : Units → Bool}

theorem decodePayload_written (event : SupportEvent dateParses) :
    decodePayload (bytesToBase64Url (utf8 (String.ofList (payloadText dateParses event)))) =
      some (.object [entry "simulationWarning" (stringJson simulatedPayloadMarker),
        entry "event" (eventJson event)]) := by
  have hopen : ∃ chars, payloadText dateParses event = '\x7b' :: chars := ⟨_, rfl⟩
  obtain ⟨chars, hchars⟩ := hopen
  have hbytes : utf8 (String.ofList (payloadText dateParses event)) ≠ [] := by
    intro hnil
    have hempty : utf8 (String.ofList []) = [] := rfl
    have hsame := Delivery.ValueObjects.utf8_injective (hnil.trans hempty.symm)
    rw [hchars] at hsame
    exact absurd (String.ofList_injective hsame) (List.cons_ne_nil _ _)
  have hmark : dropByteOrderMark (payloadText dateParses event) =
      payloadText dateParses event := by
    rw [hchars]
    rfl
  have hparsed := jsonParse_eq (jsonText_of_valueText (written_payload event))
  unfold decodePayload
  rw [bytesToBase64Url_eq, base64UrlToBytes_eq hbytes]
  simp only [Option.bind_eq_bind, Option.bind_some, decodeUtf8_eq.mpr rfl, String.toList_ofList]
  rw [hmark]
  exact hparsed

theorem decode_encode (event : SupportEvent dateParses) :
    decodeSimulatedSupportEvent dateParses
      (bytesToBase64Url (utf8 (String.ofList (payloadText dateParses event)))) = .ok event := by
  unfold decodeSimulatedSupportEvent
  rw [decodePayload_written]
  simp only [expectRecord, bind, Except.bind]
  simp [property_entry, stringJson, parseSupportEvent_event]

/-- What is parsed is what comes back from the wire; what comes from the wire goes over it again
and comes back the same. -/
theorem support_events_survive (dateParses : Units → Bool) :
    (∀ (value : Option Json) (event : SupportEvent dateParses),
      parseSupportEvent dateParses value = .ok event →
        ∃ ciphertext, encodeSimulatedSupportEvent dateParses value = .ok ciphertext ∧
          decodeSimulatedSupportEvent dateParses ciphertext = .ok event) ∧
      ∀ (ciphertext : Units) (event : SupportEvent dateParses),
        decodeSimulatedSupportEvent dateParses ciphertext = .ok event →
          ∃ again, encodeSimulatedSupportEvent dateParses (some (eventJson event)) = .ok again ∧
            decodeSimulatedSupportEvent dateParses again = .ok event := by
  have survives : ∀ (value : Option Json) (event : SupportEvent dateParses),
      parseSupportEvent dateParses value = .ok event →
        ∃ ciphertext, encodeSimulatedSupportEvent dateParses value = .ok ciphertext ∧
          decodeSimulatedSupportEvent dateParses ciphertext = .ok event := by
    intro value event hparsed
    refine ⟨_, ?_, decode_encode event⟩
    unfold encodeSimulatedSupportEvent
    rw [hparsed]
    rfl
  exact ⟨survives, fun _ event _ => survives _ event (parseSupportEvent_event event)⟩

end

end JbChat.Domain.SupportCodec
