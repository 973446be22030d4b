/- source: src/production/delivery/conversationCursorCodec.ts
   digest: The sealed cursors of a conversation, and the tokens that are taken for them. -/

import JbChat.Delivery.InstantOrder
import JbChat.Foundation.IdealCipher
import JbChat.Http.Dpop
import JbChat.Store.Commands
import JbChat.Store.CursorNonce

/-!
The cipher under the codec's key is ideal. The allocator's answer is part of a call of `encode`.
The texts of a plaintext are of its branded types, so a decimal denotes a number below 2^63 and an
instant is canonical.
-/

set_option autoImplicit false

namespace JbChat.Http.ConversationCursors

open Foundation Foundation.HashTrace Foundation.IdealCipher Foundation.LengthPrefix
open Delivery.ValueObjects Delivery.Instants Delivery.InstantOrder Dpop
open Foundation.CodeUnits (utf16Length)
open Store.Commands

structure ConversationCursorContext where
  realmId : String
  accountId : String
  installationId : String
  conversationId : String
  routeTemplate : String

structure ConversationCursorPlaintext where
  realmId : String
  installationId : String
  conversationId : String
  lastReturnedPosition : String
  issuedAt : String
  expiresAt : String
  keyId : String
  position_decimal : isDecimal lastReturnedPosition.toList = true
  position_bound : Nat.ofDigitChars 10 lastReturnedPosition.toList 0 ≤ uint63Max
  issuedAt_canonical : isRfc3339Millis issuedAt = true
  expiresAt_canonical : isRfc3339Millis expiresAt = true

/-- The claims of a token; their other members are literals. -/
structure ConversationCursorClaims where
  encodedCursor : String
  realmId : String
  accountId : String
  installationId : String
  conversationId : String
  routeTemplate : String
  lastReturnedPosition : String
  issuedAt : String
  expiresAt : String
  keyId : String

/-- A call that throws: a context that does not parse, or a `TypeError`. -/
inductive CodecError where
  | refused (failure : Failure)
  | typeError (message : String)

structure Codec where
  keyId : String
  canonical : isSigningKeyId keyId = true
  cipher : Cipher

def cursorAadDomain : String := "jb-msg-conversation-cursor-aad/v1"

def cursorPrefix : String := "cc1."

def cursorMaxCharacters : Nat := 1024

def conversationEventsRouteTemplate : String := "/v1/conversations/\x7bconversationId\x7d/events"

/-- `toString("ascii")`, which drops the high bit of each byte. -/
def asciiText (bytes : Bytes) : String :=
  String.ofList (bytes.map fun byte => Char.ofNat (byte.toNat % 128))

def lengthPrefixed (value : String) : Bytes := lengthPrefix (asciiBytes value)

def u64be (value : Int) : Except CodecError Bytes :=
  if value < 0 ∨ 0xffffffffffffffff < value then
    .error (.typeError "Value is outside the unsigned 64-bit range.")
  else .ok (JbChat.Store.CursorNonce.u64be value.toNat)

def bigEndian (bytes : Bytes) : Nat := bytes.foldl (fun value byte => value * 256 + byte.toNat) 0

/-- A reader of the bytes that are left; `none` when it throws. -/
abbrev ByteReader := StateT Bytes Option

def readNumber (size : Nat) : ByteReader Nat := fun bytes =>
  if bytes.length < size then none else some (bigEndian (bytes.take size), bytes.drop size)

def readU8 : ByteReader Nat := readNumber 1

def readU64be : ByteReader Nat := readNumber 8

def readLengthPrefixedAscii : ByteReader String := do
  let length ← readNumber 4
  fun bytes =>
    if bytes.length < length then none
    else some (asciiText (bytes.take length), bytes.drop length)

def expectExhausted : ByteReader Unit := fun bytes => if bytes = [] then some ((), []) else none

section

variable (codec : Codec)

def parseConversationCursorContext (value : ConversationCursorContext) :
    Except Failure ConversationCursorContext := do
  if value.routeTemplate ≠ conversationEventsRouteTemplate then
    .error (.invalid "Conversation cursor route template is not canonical.")
  else do
    let realmId ← parseDeliveryRealmId value.realmId
    let accountId ← parseUuidV4 value.accountId "accountId"
    let installationId ← parseUuidV4 value.installationId "installationId"
    let conversationId ← parseConversationId value.conversationId
    .ok ⟨realmId, accountId, installationId, conversationId, conversationEventsRouteTemplate⟩

def keyIdBytes : Bytes := asciiBytes codec.keyId

def aadFor (context : ConversationCursorContext) : Bytes :=
  asciiBytes cursorAadDomain ++ lengthPrefixed context.realmId ++
    lengthPrefixed context.accountId ++ lengthPrefixed context.installationId ++
    lengthPrefixed context.conversationId ++
    lengthPrefixed ("GET " ++ conversationEventsRouteTemplate) ++ lengthPrefixed codec.keyId

def encodeBody (plaintext : ConversationCursorPlaintext) : Except CodecError Bytes := do
  let position ← u64be (Nat.ofDigitChars 10 plaintext.lastReturnedPosition.toList 0)
  let issuedAt ← u64be (dateParse plaintext.issuedAt)
  let expiresAt ← u64be (dateParse plaintext.expiresAt)
  .ok ([1] ++ lengthPrefixed plaintext.realmId ++ lengthPrefixed plaintext.conversationId ++
    lengthPrefixed plaintext.installationId ++ position ++ issuedAt ++ expiresAt ++
    lengthPrefixed plaintext.keyId)

def tokenOf (keyId nonce ciphertext tag : Bytes) : String :=
  cursorPrefix ++ Base64Url.encode ([1] ++ [UInt8.ofNat keyId.length] ++ keyId ++ nonce ++
    ciphertext ++ tag)

/-- A call of `encode`, with what the nonce allocator answers. -/
structure EncodeCall where
  plaintext : ConversationCursorPlaintext
  context : ConversationCursorContext
  nonce : Bytes

def Bound (plaintext : ConversationCursorPlaintext) (context : ConversationCursorContext) : Prop :=
  plaintext.keyId = codec.keyId ∧ plaintext.realmId = context.realmId ∧
    plaintext.installationId = context.installationId ∧
    plaintext.conversationId = context.conversationId

instance (plaintext : ConversationCursorPlaintext) (context : ConversationCursorContext) :
    Decidable (Bound codec plaintext context) := inferInstanceAs (Decidable (_ ∧ _))

/-- The token, or the throw, and what is sealed under the key after the call. -/
def encode (call : EncodeCall) (sealings : List Sealing) :
    Except CodecError String × List Sealing :=
  match parseConversationCursorContext call.context with
  | .error failure => (.error (.refused failure), sealings)
  | .ok context =>
    if ¬ Bound codec call.plaintext context then
      (.error (.typeError "Cursor plaintext does not bind its context."), sealings)
    else
      match encodeBody call.plaintext with
      | .error failure => (.error failure, sealings)
      | .ok body =>
        if call.nonce.length ≠ 12 then
          (.error (.typeError "The cursor nonce must be 96 bits."), sealings)
        else
          let aad := aadFor codec context
          let sealed := codec.cipher.sealBody call.nonce aad body
          let encodedCursor := tokenOf (keyIdBytes codec) call.nonce sealed.1 sealed.2
          if cursorMaxCharacters < utf16Length encodedCursor then
            (.error (.typeError "The encoded cursor exceeds its ceiling."),
              sealings ++ [⟨call.nonce, aad, body⟩])
          else (.ok encodedCursor, sealings ++ [⟨call.nonce, aad, body⟩])

/-- The bytes of a token behind its prefix. -/
structure CursorBlob where
  keyId : Bytes
  nonce : Bytes
  ciphertext : Bytes
  tag : Bytes

def decodeBlob (token : String) : Option Bytes :=
  if cursorMaxCharacters < utf16Length token ∨ ¬ cursorPrefix.toList <+: token.toList then none
  else
    let encodedBlob := String.ofList (token.toList.drop 4)
    if ¬ Dpop.isBase64UrlSegment encodedBlob then none
    else if Base64Url.encode (Base64Url.decode encodedBlob) ≠ encodedBlob then none
    else some (Base64Url.decode encodedBlob)

def splitBlob : Bytes → Option CursorBlob
  | version :: length :: rest =>
    let keyIdLength := length.toNat
    if rest.length + 2 < 2 + 1 + 12 + 16 ∨ version ≠ 1 ∨ keyIdLength < 1 ∨ 64 < keyIdLength ∨
        rest.length + 2 < 2 + keyIdLength + 12 + 16 then none
    else
      let sealed := (rest.drop keyIdLength).drop 12
      some ⟨rest.take keyIdLength, (rest.drop keyIdLength).take 12,
        sealed.take (sealed.length - 16), sealed.drop (sealed.length - 16)⟩
  | _ => none

structure BodyFields where
  realmId : String
  conversationId : String
  installationId : String
  lastReturnedPosition : Nat
  issuedAtMilliseconds : Nat
  expiresAtMilliseconds : Nat
  keyId : String

def readBody : ByteReader BodyFields := do
  let version ← readU8
  if version ≠ 1 then failure
  else do
    let realmId ← readLengthPrefixedAscii
    let conversationId ← readLengthPrefixedAscii
    let installationId ← readLengthPrefixedAscii
    let lastReturnedPosition ← readU64be
    let issuedAtMilliseconds ← readU64be
    let expiresAtMilliseconds ← readU64be
    let keyId ← readLengthPrefixedAscii
    expectExhausted
    pure ⟨realmId, conversationId, installationId, lastReturnedPosition, issuedAtMilliseconds,
      expiresAtMilliseconds, keyId⟩

/-- The claims of a body that was opened. Instants behind the year 9999 are not sealed. -/
def claimsOf (token : String) (context : ConversationCursorContext) (clearKeyId : String)
    (body : Bytes) : Option ConversationCursorClaims := do
  let (fields, _) ← readBody body
  if fields.realmId ≠ context.realmId ∨ fields.conversationId ≠ context.conversationId ∨
      fields.installationId ≠ context.installationId ∨ fields.keyId ≠ clearKeyId then none
  else do
    let issuedAt ← toISOString fields.issuedAtMilliseconds
    let expiresAt ← toISOString fields.expiresAtMilliseconds
    some ⟨token, fields.realmId, context.accountId, fields.installationId, fields.conversationId,
      conversationEventsRouteTemplate, fields.lastReturnedPosition.repr, issuedAt, expiresAt,
      fields.keyId⟩

/-- The claims of a token, or none when its authentication fails. -/
def decode (sealings : List Sealing) (token : String) (context : ConversationCursorContext) :
    Except Failure (Option ConversationCursorClaims) := do
  let context ← parseConversationCursorContext context
  .ok do
    let blob ← decodeBlob token
    let parts ← splitBlob blob
    if asciiText parts.keyId ≠ codec.keyId then none
    else do
      let body ← openSealed codec.cipher sealings parts.nonce (aadFor codec context)
        parts.ciphertext parts.tag
      claimsOf token context (asciiText parts.keyId) body

end

section

variable (codec : Codec)

/-- What is sealed under the key, and the tokens that were returned, each with its call. -/
structure History where
  sealings : List Sealing
  issued : List (EncodeCall × String)

def History.encode (history : History) (call : EncodeCall) : History :=
  match ConversationCursors.encode codec call history.sealings with
  | (.ok token, sealings) => ⟨sealings, history.issued ++ [(call, token)]⟩
  | (.error _, sealings) => ⟨sealings, history.issued⟩

/-- The codec's calls of `encode`, one after the other. -/
def encodeAll (calls : List EncodeCall) : History := calls.foldl (History.encode codec) ⟨[], []⟩

end

end JbChat.Http.ConversationCursors
