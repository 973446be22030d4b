/- source: src/production/delivery/conversationCursorCodec.ts
   digest: A cursor is read back from its token, and which other tokens are taken for it. -/

import JbChat.Http.ConversationCursors

set_option autoImplicit false

namespace JbChat.Http.CursorTokens

open Foundation Foundation.HashTrace Foundation.IdealCipher Foundation.LengthPrefix
open Foundation.Transaction Delivery.ValueObjects Delivery.Instants Delivery.InstantOrder
open Foundation.CodeUnits (utf16Length)
open Dpop Store.Commands ConversationCursors

section

variable {c : Char}

/-- A text of seven-bit characters. -/
def Ascii (text : String) : Prop := ∀ c ∈ text.toList, c.toNat < 128

variable {text other : String}

theorem asciiBytes_eq (ascii : Ascii text) :
    asciiBytes text = text.toList.map fun c => UInt8.ofNat c.toNat := by
  unfold asciiBytes
  rw [List.map_eq_flatMap]
  refine List.flatMap_congr fun c hc => ?_
  have hsmall := ascii c hc
  rw [if_pos (by omega)]

theorem asciiBytes_length (ascii : Ascii text) :
    (asciiBytes text).length = text.toList.length := by
  rw [asciiBytes_eq ascii, List.length_map]

theorem asciiText_asciiBytes (ascii : Ascii text) : asciiText (asciiBytes text) = text := by
  unfold asciiText
  rw [← String.toList_inj, String.toList_ofList, asciiBytes_eq ascii, List.map_map]
  refine (List.map_congr_left fun c hc => ?_).trans (List.map_id _)
  have hsmall := ascii c hc
  have hnumber : (UInt8.ofNat c.toNat).toNat % 128 = c.toNat := by
    rw [UInt8.toNat_ofNat']
    omega
  rw [Function.comp_apply, hnumber, Char.ofNat_toNat]
  rfl

theorem asciiBytes_injective (ascii : Ascii text) (ascii' : Ascii other)
    (h : asciiBytes text = asciiBytes other) : text = other := by
  rw [← asciiText_asciiBytes ascii, h, asciiText_asciiBytes ascii']

theorem toNat_ofNat_small {n : Nat} (h : n < 128) : (Char.ofNat n).toNat = n := by
  have hall : ∀ m : Fin 128, (Char.ofNat m.val).toNat = m.val := by decide
  exact hall ⟨n, h⟩

theorem ascii_asciiText (bytes : Bytes) : Ascii (asciiText bytes) := by
  intro c hc
  unfold asciiText at hc
  rw [String.toList_ofList] at hc
  obtain ⟨byte, -, rfl⟩ := List.mem_map.mp hc
  have hsmall : byte.toNat % 128 < 128 := Nat.mod_lt _ (by decide)
  rw [toNat_ofNat_small hsmall]
  exact hsmall

theorem asciiBytes_asciiText {bytes : Bytes} (h : ∀ byte ∈ bytes, byte.toNat < 128) :
    asciiBytes (asciiText bytes) = bytes := by
  rw [asciiBytes_eq (ascii_asciiText bytes)]
  unfold asciiText
  rw [String.toList_ofList, List.map_map]
  refine (List.map_congr_left fun byte hbyte => ?_).trans (List.map_id _)
  have hsmall := h byte hbyte
  rw [Function.comp_apply, Nat.mod_eq_of_lt hsmall, toNat_ofNat_small hsmall, UInt8.ofNat_toNat]
  rfl

theorem sevenBit_asciiBytes (ascii : Ascii text) :
    ∀ byte ∈ asciiBytes text, byte.toNat < 128 := by
  intro byte hbyte
  rw [asciiBytes_eq ascii] at hbyte
  obtain ⟨c, hc, rfl⟩ := List.mem_map.mp hbyte
  have hsmall := ascii c hc
  rw [UInt8.toNat_ofNat']
  omega

theorem ascii_of_tests {tests : List (Char → Bool)}
    (small : ∀ test ∈ tests, ∀ c, test c = true → c.toNat < 128)
    (h : matchesEach tests text.toList = true) : Ascii text := by
  unfold Ascii
  generalize text.toList = chars at h
  induction tests generalizing chars with
  | nil =>
    cases chars with
    | nil => exact fun _ hc => absurd hc List.not_mem_nil
    | cons c chars => cases h
  | cons test tests ih =>
    cases chars with
    | nil => exact fun _ hc => absurd hc List.not_mem_nil
    | cons first chars =>
      obtain ⟨hfirst, hrest⟩ := (Bool.and_eq_true _ _).mp h
      intro c hc
      rcases List.mem_cons.mp hc with rfl | hlater
      · exact small test List.mem_cons_self c hfirst
      · exact ih (fun other hother => small other (List.mem_cons_of_mem _ hother)) chars hrest c
          hlater

theorem small_of_range {low high : Char} (h : low ≤ c ∧ c ≤ high) (bound : high.toNat < 128) :
    c.toNat < 128 := by
  have hle : c.toNat ≤ high.toNat := h.2
  omega

theorem small_of_isDigit (h : c.isDigit = true) : c.toNat < 128 := by
  unfold Char.isDigit at h
  obtain ⟨hlow, hhigh⟩ := (Bool.and_eq_true _ _).mp h
  exact @small_of_range c '0' '9' ⟨of_decide_eq_true hlow, of_decide_eq_true hhigh⟩ (by decide)

theorem small_of_isKeyChar (h : isKeyChar c = true) : c.toNat < 128 := by
  unfold isKeyChar at h
  rcases (Bool.or_eq_true _ _).mp h with hdigit | hletter
  · exact small_of_isDigit hdigit
  · exact small_of_range (of_decide_eq_true (by simpa using hletter)) (by decide)

theorem ascii_of_keyId (h : isSigningKeyId text = true) : Ascii text := by
  unfold isSigningKeyId at h
  intro c hc
  split at h
  · cases h
  next first rest hchars =>
    rw [hchars] at hc
    simp only [Bool.and_eq_true, List.all_eq_true] at h
    obtain ⟨⟨hfirst, -⟩, hrest⟩ := h
    rcases List.mem_cons.mp hc with rfl | hlater
    · exact small_of_isKeyChar hfirst
    · have hchar := hrest c hlater
      simp only [Bool.or_eq_true, beq_iff_eq] at hchar
      rcases hchar with ((hkey | rfl) | rfl) | rfl
      · exact small_of_isKeyChar hkey
      · decide
      · decide
      · decide

theorem small_of_isLowerHex (h : isLowerHex c = true) : c.toNat < 128 := by
  unfold isLowerHex at h
  rcases (Bool.or_eq_true _ _).mp h with hdigit | hletter
  · exact small_of_isDigit hdigit
  · exact small_of_range (of_decide_eq_true (by simpa using hletter)) (by decide)

theorem ascii_of_uuid (h : isUuidV4 text = true) : Ascii text := by
  have hex : ∀ n, ∀ test ∈ List.replicate n isLowerHex, ∀ c, test c = true → c.toNat < 128 := by
    intro n test htest c hc
    rw [List.eq_of_mem_replicate htest] at hc
    exact small_of_isLowerHex hc
  have one : ∀ d : Char, d.toNat < 128 → ∀ test ∈ [fun c : Char => c == d], ∀ c,
      test c = true → c.toNat < 128 := by
    intro d hd test htest c hc
    rw [List.mem_singleton.mp htest] at hc
    rw [beq_iff_eq.mp hc]
    exact hd
  have variant : ∀ test ∈ [fun c : Char => c == '8' || c == '9' || c == 'a' || c == 'b'], ∀ c,
      test c = true → c.toNat < 128 := by
    intro test htest c hc
    rw [List.mem_singleton.mp htest] at hc
    simp only [Bool.or_eq_true, beq_iff_eq] at hc
    rcases hc with ((rfl | rfl) | rfl) | rfl <;> decide
  refine ascii_of_tests ?_ h
  unfold uuidTests
  simp only [List.forall_mem_append]
  exact ⟨⟨⟨⟨⟨⟨⟨⟨⟨⟨hex 8, one _ (by decide)⟩, hex 4⟩, one _ (by decide)⟩, one _ (by decide)⟩, hex 3⟩,
    one _ (by decide)⟩, variant⟩, hex 3⟩, one _ (by decide)⟩, hex 12⟩

end

section

variable {codec : Codec} {value parsed context other : ConversationCursorContext} {text : String}

structure Canonical (context : ConversationCursorContext) : Prop where
  route : context.routeTemplate = conversationEventsRouteTemplate
  realm : isSigningKeyId context.realmId = true
  account : isUuidV4 context.accountId = true
  installation : isUuidV4 context.installationId = true
  conversation : isUuidV4 context.conversationId = true

theorem parseContext_eq_ok : parseConversationCursorContext value = .ok parsed ↔
    Canonical value ∧ parsed = value := by
  unfold parseConversationCursorContext
  constructor
  · intro h
    obtain ⟨hroute, h⟩ := guard_ok.mp h
    obtain ⟨realmId, hrealm, h⟩ := bind_ok.mp h
    obtain ⟨accountId, haccount, h⟩ := bind_ok.mp h
    obtain ⟨installationId, hinstallation, h⟩ := bind_ok.mp h
    obtain ⟨conversationId, hconversation, h⟩ := bind_ok.mp h
    unfold parseDeliveryRealmId at hrealm
    obtain ⟨account, rfl⟩ := parseUuidV4_eq_ok.mp haccount
    obtain ⟨installation, rfl⟩ := parseUuidV4_eq_ok.mp hinstallation
    obtain ⟨conversation, rfl⟩ := parseUuidV4_eq_ok.mp hconversation
    cases h
    have route := not_not.mp hroute
    split at hrealm
    next hkey =>
      cases hrealm
      refine ⟨⟨route, hkey, account, installation, conversation⟩, ?_⟩
      rw [← route]
    next => cases hrealm
  · rintro ⟨⟨hroute, hrealm, haccount, hinstallation, hconversation⟩, rfl⟩
    unfold parseDeliveryRealmId parseConversationId parseUuidV4
    rw [if_neg (not_not.mpr hroute), if_pos hrealm, if_pos haccount, if_pos hinstallation,
      if_pos hconversation, ← hroute]
    rfl

theorem parseContext_of_canonical (canonical : Canonical context) :
    parseConversationCursorContext context = .ok context :=
  parseContext_eq_ok.mpr ⟨canonical, rfl⟩

theorem sized_ascii (ascii : Ascii text) (h : text.toList.length ≤ 1024) :
    Sized (asciiBytes text) := by
  unfold Sized
  rw [asciiBytes_length ascii]
  omega

theorem sized_keyId (h : isSigningKeyId text = true) :
    Sized (asciiBytes text) :=
  sized_ascii (ascii_of_keyId h) ((isSigningKeyId_length h).trans (by decide))

theorem sized_uuid (h : isUuidV4 text = true) : Sized (asciiBytes text) :=
  sized_ascii (ascii_of_uuid h) ((isUuidV4_length h).trans_le (by decide))

/-- The fields that are bound as associated data. -/
def aadFields (codec : Codec) (context : ConversationCursorContext) : List Bytes :=
  [asciiBytes context.realmId, asciiBytes context.accountId, asciiBytes context.installationId,
    asciiBytes context.conversationId, asciiBytes ("GET " ++ conversationEventsRouteTemplate),
    asciiBytes codec.keyId]

theorem aadFor_eq (codec : Codec) (context : ConversationCursorContext) :
    aadFor codec context = asciiBytes cursorAadDomain ++
      LengthPrefix.lengthPrefixed (aadFields codec context) := by
  unfold aadFor aadFields LengthPrefix.lengthPrefixed ConversationCursors.lengthPrefixed
  simp only [List.flatMap_cons, List.flatMap_nil, List.append_nil, List.append_assoc]

theorem sized_aadFields (canonical : Canonical context) :
    ∀ field ∈ aadFields codec context, Sized field := by
  have route : Sized (asciiBytes ("GET " ++ conversationEventsRouteTemplate)) := by
    unfold Sized
    decide
  unfold aadFields
  simp only [List.forall_mem_cons]
  exact ⟨sized_keyId canonical.realm, sized_uuid canonical.account,
    sized_uuid canonical.installation, sized_uuid canonical.conversation, route,
    sized_keyId codec.canonical, fun _ h => absurd h List.not_mem_nil⟩

theorem aadFor_injective (canonical : Canonical context) (canonical' : Canonical other)
    (h : aadFor codec context = aadFor codec other) : context = other := by
  rw [aadFor_eq, aadFor_eq] at h
  have fields := lengthPrefixed_injective (sized_aadFields canonical) (sized_aadFields canonical')
    (List.append_cancel_left h)
  unfold aadFields at fields
  obtain ⟨hrealm, fields⟩ := List.cons.inj fields
  obtain ⟨haccount, fields⟩ := List.cons.inj fields
  obtain ⟨hinstallation, fields⟩ := List.cons.inj fields
  obtain ⟨hconversation, -⟩ := List.cons.inj fields
  have realm := asciiBytes_injective (ascii_of_keyId canonical.realm)
    (ascii_of_keyId canonical'.realm) hrealm
  have account := asciiBytes_injective (ascii_of_uuid canonical.account)
    (ascii_of_uuid canonical'.account) haccount
  have installation := asciiBytes_injective (ascii_of_uuid canonical.installation)
    (ascii_of_uuid canonical'.installation) hinstallation
  have conversation := asciiBytes_injective (ascii_of_uuid canonical.conversation)
    (ascii_of_uuid canonical'.conversation) hconversation
  have route := canonical.route.trans canonical'.route.symm
  cases context
  cases other
  simp only at realm account installation conversation route
  rw [realm, account, installation, conversation, route]

end

section

variable {plaintext : ConversationCursorPlaintext} {body : Bytes} {n : Nat}

theorem bigEndian_u32be (h : n < 2 ^ 32) : bigEndian (u32be n) = n := by
  unfold bigEndian u32be
  simp only [List.foldl_cons, List.foldl_nil, UInt8.toNat_ofNat']
  omega

theorem bigEndian_u64be (h : n < 2 ^ 64) :
    bigEndian (JbChat.Store.CursorNonce.u64be n) = n := by
  unfold bigEndian JbChat.Store.CursorNonce.u64be u32be
  simp only [List.cons_append, List.nil_append, List.foldl_cons, List.foldl_nil,
    UInt8.toNat_ofNat']
  omega

theorem reader_bind {α β : Type} {reader : ByteReader α} {next : α → ByteReader β} {a : α}
    {bytes rest : Bytes} (h : reader bytes = some (a, rest)) :
    (reader >>= next) bytes = next a rest := by
  change (reader bytes).bind (fun read => next read.1 read.2) = _
  rw [h]
  rfl

theorem readNumber_append {size : Nat} {front rest : Bytes} (h : front.length = size) :
    readNumber size (front ++ rest) = some (bigEndian front, rest) := by
  unfold readNumber
  rw [if_neg (by rw [List.length_append]; omega), List.take_left' h, List.drop_left' h]

theorem readU64be_append (h : n < 2 ^ 64) (rest : Bytes) :
    readU64be (JbChat.Store.CursorNonce.u64be n ++ rest) = some (n, rest) := by
  have hsize : (JbChat.Store.CursorNonce.u64be n).length = 8 := rfl
  unfold readU64be
  rw [readNumber_append hsize, bigEndian_u64be h]

theorem readLengthPrefixedAscii_append {text : String} (ascii : Ascii text)
    (sized : Sized (asciiBytes text)) (rest : Bytes) :
    readLengthPrefixedAscii (ConversationCursors.lengthPrefixed text ++ rest) =
      some (text, rest) := by
  have hsize : (u32be (asciiBytes text).length).length = 4 := rfl
  unfold readLengthPrefixedAscii ConversationCursors.lengthPrefixed lengthPrefix
  rw [List.append_assoc, reader_bind (readNumber_append hsize), bigEndian_u32be sized,
    if_neg (by rw [List.length_append]; omega), List.take_left, List.drop_left,
    asciiText_asciiBytes ascii]

theorem u64be_eq_ok {value : Int} {bytes : Bytes} : ConversationCursors.u64be value = .ok bytes ↔
    (0 ≤ value ∧ value ≤ 0xffffffffffffffff) ∧
      bytes = JbChat.Store.CursorNonce.u64be value.toNat := by
  unfold ConversationCursors.u64be
  rw [guard_ok, Except.ok.injEq, eq_comm]
  push Not
  rfl

def positionOf (plaintext : ConversationCursorPlaintext) : Nat :=
  Nat.ofDigitChars 10 plaintext.lastReturnedPosition.toList 0

/-- The instants of a plaintext are not before the epoch. -/
def SinceEpoch (plaintext : ConversationCursorPlaintext) : Prop :=
  0 ≤ dateParse plaintext.issuedAt ∧ 0 ≤ dateParse plaintext.expiresAt

def bodyOf (plaintext : ConversationCursorPlaintext) : Bytes :=
  [1] ++ (ConversationCursors.lengthPrefixed plaintext.realmId ++
    (ConversationCursors.lengthPrefixed plaintext.conversationId ++
    (ConversationCursors.lengthPrefixed plaintext.installationId ++
    (JbChat.Store.CursorNonce.u64be (positionOf plaintext) ++
    (JbChat.Store.CursorNonce.u64be (dateParse plaintext.issuedAt).toNat ++
    (JbChat.Store.CursorNonce.u64be (dateParse plaintext.expiresAt).toNat ++
    ConversationCursors.lengthPrefixed plaintext.keyId))))))

theorem encodeBody_eq_ok : encodeBody plaintext = .ok body ↔
    SinceEpoch plaintext ∧ body = bodyOf plaintext := by
  have hposition := plaintext.position_bound
  obtain ⟨-, hissued⟩ := dateParse_range plaintext.issuedAt_canonical
  obtain ⟨-, hexpires⟩ := dateParse_range plaintext.expiresAt_canonical
  unfold uint63Max at hposition
  unfold lastInstant at hissued hexpires
  unfold encodeBody
  simp only [bind_ok, u64be_eq_ok]
  constructor
  · rintro ⟨position, ⟨-, rfl⟩, issuedAt, ⟨⟨hfirst, -⟩, rfl⟩, expiresAt, ⟨⟨hlast, -⟩, rfl⟩, h⟩
    cases h
    refine ⟨⟨hfirst, hlast⟩, ?_⟩
    unfold bodyOf positionOf
    simp only [List.append_assoc, Int.toNat_natCast]
  · rintro ⟨⟨hfirst, hlast⟩, rfl⟩
    refine ⟨_, ⟨⟨by omega, by omega⟩, rfl⟩, _, ⟨⟨hfirst, by omega⟩, rfl⟩, _,
      ⟨⟨hlast, by omega⟩, rfl⟩, ?_⟩
    unfold bodyOf positionOf
    simp only [List.append_assoc, Int.toNat_natCast]

variable {codec : Codec} {context : ConversationCursorContext}

def fieldsOf (plaintext : ConversationCursorPlaintext) : BodyFields where
  realmId := plaintext.realmId
  conversationId := plaintext.conversationId
  installationId := plaintext.installationId
  lastReturnedPosition := positionOf plaintext
  issuedAtMilliseconds := (dateParse plaintext.issuedAt).toNat
  expiresAtMilliseconds := (dateParse plaintext.expiresAt).toNat
  keyId := plaintext.keyId

theorem readBody_bodyOf (canonical : Canonical context) (bound : Bound codec plaintext context) :
    readBody (bodyOf plaintext) = some (fieldsOf plaintext, []) := by
  obtain ⟨hkey, hrealm, hinstallation, hconversation⟩ := bound
  have hposition := plaintext.position_bound
  obtain ⟨-, hissued⟩ := dateParse_range plaintext.issuedAt_canonical
  obtain ⟨-, hexpires⟩ := dateParse_range plaintext.expiresAt_canonical
  unfold uint63Max at hposition
  unfold lastInstant at hissued hexpires
  have realm := canonical.realm
  have installation := canonical.installation
  have conversation := canonical.conversation
  have key := codec.canonical
  rw [← hrealm] at realm
  rw [← hinstallation] at installation
  rw [← hconversation] at conversation
  rw [← hkey] at key
  have version : ∀ rest, readU8 ([1] ++ rest) = some (1, rest) := fun _ => readNumber_append rfl
  have last := readLengthPrefixedAscii_append (ascii_of_keyId key) (sized_keyId key) []
  rw [List.append_nil] at last
  unfold readBody bodyOf
  rw [reader_bind (version _), if_neg (not_not.mpr rfl),
    reader_bind (readLengthPrefixedAscii_append (ascii_of_keyId realm) (sized_keyId realm) _),
    reader_bind (readLengthPrefixedAscii_append (ascii_of_uuid conversation)
      (sized_uuid conversation) _),
    reader_bind (readLengthPrefixedAscii_append (ascii_of_uuid installation)
      (sized_uuid installation) _),
    reader_bind (readU64be_append (by unfold positionOf; omega) _),
    reader_bind (readU64be_append (by omega) _), reader_bind (readU64be_append (by omega) _),
    reader_bind last]
  rfl

/-- The claims that a sealed plaintext is decoded to. -/
def claimsFor (plaintext : ConversationCursorPlaintext) (context : ConversationCursorContext)
    (token : String) : ConversationCursorClaims where
  encodedCursor := token
  realmId := plaintext.realmId
  accountId := context.accountId
  installationId := plaintext.installationId
  conversationId := plaintext.conversationId
  routeTemplate := conversationEventsRouteTemplate
  lastReturnedPosition := plaintext.lastReturnedPosition
  issuedAt := plaintext.issuedAt
  expiresAt := plaintext.expiresAt
  keyId := plaintext.keyId

theorem claimsOf_bodyOf (canonical : Canonical context) (bound : Bound codec plaintext context)
    (epoch : SinceEpoch plaintext) (token : String) :
    claimsOf token context codec.keyId (bodyOf plaintext) =
      some (claimsFor plaintext context token) := by
  have hread := readBody_bodyOf canonical bound
  obtain ⟨hkey, hrealm, hinstallation, hconversation⟩ := bound
  have hissued := toISOString_dateParse plaintext.issuedAt_canonical
  have hexpires := toISOString_dateParse plaintext.expiresAt_canonical
  rw [← Int.toNat_of_nonneg epoch.1] at hissued
  rw [← Int.toNat_of_nonneg epoch.2] at hexpires
  have hposition : (positionOf plaintext).repr = plaintext.lastReturnedPosition :=
    (repr_of_isDecimal plaintext.position_decimal).symm
  unfold claimsOf
  rw [hread]
  change (if _ then _ else _) = _
  rw [if_neg]
  · unfold fieldsOf claimsFor
    dsimp only
    rw [hissued, hexpires, hposition]
    rfl
  · push Not
    exact ⟨hrealm, hconversation, hinstallation, hkey⟩

end

section

variable {blob : Bytes} {parts others : CursorBlob} {token : String}

/-- The parts of a token with the sizes that the codec writes. -/
structure Framed (parts : CursorBlob) : Prop where
  keyId : 1 ≤ parts.keyId.length ∧ parts.keyId.length ≤ 64
  nonce : parts.nonce.length = 12
  tag : parts.tag.length = 16

def blobOf (parts : CursorBlob) : Bytes :=
  [1] ++ [UInt8.ofNat parts.keyId.length] ++ parts.keyId ++ parts.nonce ++ parts.ciphertext ++
    parts.tag

def tokenFor (parts : CursorBlob) : String :=
  tokenOf parts.keyId parts.nonce parts.ciphertext parts.tag

theorem tokenFor_eq (parts : CursorBlob) :
    tokenFor parts = cursorPrefix ++ Base64Url.encode (blobOf parts) := rfl

theorem splitBlob_eq_some : splitBlob blob = some parts ↔ Framed parts ∧ blob = blobOf parts := by
  constructor
  · intro h
    unfold splitBlob at h
    split at h
    next version length rest =>
      dsimp only at h
      split at h
      · cases h
      next hsizes =>
        cases h
        push Not at hsizes
        obtain ⟨-, hversion, hkey, hkey', hlength⟩ := hsizes
        have hkeyId : (rest.take length.toNat).length = length.toNat := by
          rw [List.length_take]
          omega
        refine ⟨⟨?_, ?_, ?_⟩, ?_⟩
        · dsimp only
          omega
        · simp only [List.length_take, List.length_drop]
          omega
        · simp only [List.length_drop]
          omega
        · unfold blobOf
          dsimp only
          rw [hkeyId, UInt8.ofNat_toNat, hversion]
          simp only [List.cons_append, List.nil_append, List.append_assoc, List.take_append_drop]
    next => cases h
  · rintro ⟨⟨hkeyId, hnonce, htag⟩, rfl⟩
    have hbyte : (UInt8.ofNat parts.keyId.length).toNat = parts.keyId.length := by
      rw [UInt8.toNat_ofNat']
      omega
    have hlast : (parts.ciphertext ++ parts.tag).length - 16 = parts.ciphertext.length := by
      rw [List.length_append]
      omega
    unfold splitBlob blobOf
    simp only [List.cons_append, List.nil_append, List.append_assoc]
    rw [hbyte, if_neg, List.take_left, List.drop_left, List.take_left' hnonce,
      List.drop_left' hnonce, hlast, List.take_left, List.drop_left]
    simp only [List.length_append]
    push Not
    refine ⟨?_, rfl, ?_, ?_, ?_⟩ <;> omega

theorem segment_encode (hne : blob ≠ []) :
    Dpop.isBase64UrlSegment (Base64Url.encode blob) = true := by
  have hchars : (Base64Url.encode blob).toList = Base64Url.encodeChars blob := String.toList_ofList
  have hlength := Base64Url.encodeChars_length blob
  have hpositive := List.length_pos_iff.mpr hne
  unfold Dpop.isBase64UrlSegment
  rw [Bool.and_eq_true, hchars]
  constructor
  · rw [Bool.not_eq_true', String.isEmpty_eq_false_iff, ← String.toList_inj.ne, hchars]
    intro hempty
    rw [hempty] at hlength
    change 0 = _ at hlength
    omega
  · exact List.all_eq_true.mpr fun c hc => decide_eq_true (Base64Url.encodeChars_mem hc)

theorem decodeBlob_eq_some : decodeBlob token = some blob ↔
    token = cursorPrefix ++ Base64Url.encode blob ∧ utf16Length token ≤ cursorMaxCharacters ∧
      blob ≠ [] := by
  unfold decodeBlob
  constructor
  · intro h
    obtain ⟨hbounded, h⟩ := Option.ite_none_left_eq_some.mp h
    obtain ⟨hsegment, h⟩ := Option.ite_none_left_eq_some.mp h
    obtain ⟨hcanonical, h⟩ := Option.ite_none_left_eq_some.mp h
    cases h
    push Not at hbounded hsegment hcanonical
    obtain ⟨hlength, later, hlater⟩ := hbounded
    have hdrop : token.toList.drop 4 = later := by
      rw [← hlater]
      exact List.drop_left' rfl
    rw [hdrop] at hsegment hcanonical ⊢
    refine ⟨?_, hlength, fun hempty => ?_⟩
    · rw [hcanonical, ← String.toList_inj, String.toList_append, String.toList_ofList, hlater]
    · rw [hempty] at hcanonical
      rw [← hcanonical] at hsegment
      exact absurd hsegment (by decide)
  · rintro ⟨rfl, hlength, hne⟩
    have hchars : (cursorPrefix ++ Base64Url.encode blob).toList =
        cursorPrefix.toList ++ (Base64Url.encode blob).toList := String.toList_append
    have hdrop : (cursorPrefix ++ Base64Url.encode blob).toList.drop 4 =
        (Base64Url.encode blob).toList := by
      rw [hchars]
      exact List.drop_left' rfl
    have hsegment := segment_encode hne
    have hprefix : cursorPrefix.toList <+: (cursorPrefix ++ Base64Url.encode blob).toList :=
      ⟨_, hchars.symm⟩
    rw [if_neg, hdrop, String.ofList_toList, if_neg (not_not.mpr hsegment),
      Base64Url.decode_encode, if_neg (not_not.mpr rfl)]
    push Not
    exact ⟨hlength, hprefix⟩

theorem keyId_eq_of_token (framed : Framed parts) (framed' : Framed others)
    (h : tokenFor parts = tokenFor others) : parts.keyId = others.keyId := by
  have hparts : splitBlob (blobOf parts) = some parts := splitBlob_eq_some.mpr ⟨framed, rfl⟩
  have hothers : splitBlob (blobOf others) = some others := splitBlob_eq_some.mpr ⟨framed', rfl⟩
  rw [tokenFor_eq, tokenFor_eq] at h
  have hblob := Base64Url.encode_injective (String.append_right_inj _ |>.mp h)
  rw [hblob, hothers] at hparts
  rw [Option.some.inj hparts]

end

section

variable {codec : Codec} {call : EncodeCall} {sealings : List Sealing}
  {context : ConversationCursorContext} {token : String} {claims : ConversationCursorClaims}

structure Seals (codec : Codec) (call : EncodeCall) : Prop where
  canonical : Canonical call.context
  bound : Bound codec call.plaintext call.context
  epoch : SinceEpoch call.plaintext
  nonce : call.nonce.length = 12

def sealingOf (codec : Codec) (call : EncodeCall) : Sealing :=
  ⟨call.nonce, aadFor codec call.context, bodyOf call.plaintext⟩

def partsOf (codec : Codec) (call : EncodeCall) : CursorBlob :=
  let sealed := codec.cipher.sealBody call.nonce (aadFor codec call.context)
    (bodyOf call.plaintext)
  ⟨keyIdBytes codec, call.nonce, sealed.1, sealed.2⟩

theorem encode_of_seals (seals : Seals codec call) : encode codec call sealings =
    (if cursorMaxCharacters < utf16Length (tokenFor (partsOf codec call)) then
        .error (.typeError "The encoded cursor exceeds its ceiling.")
      else .ok (tokenFor (partsOf codec call)),
      sealings ++ [sealingOf codec call]) := by
  unfold encode
  rw [parseContext_of_canonical seals.canonical]
  dsimp only
  rw [if_neg (not_not.mpr seals.bound), encodeBody_eq_ok.mpr ⟨seals.epoch, rfl⟩]
  dsimp only
  rw [if_neg (not_not.mpr seals.nonce)]
  unfold sealingOf tokenFor partsOf
  dsimp only
  split <;> rfl

theorem encode_of_not_seals (h : ¬ Seals codec call) :
    ∃ e, encode codec call sealings = (.error e, sealings) := by
  unfold encode
  cases hparse : parseConversationCursorContext call.context with
  | error failure => exact ⟨_, rfl⟩
  | ok parsed =>
    obtain ⟨canonical, rfl⟩ := parseContext_eq_ok.mp hparse
    dsimp only
    by_cases hbound : Bound codec call.plaintext call.context
    · rw [if_neg (not_not.mpr hbound)]
      cases hbody : encodeBody call.plaintext with
      | error failure => exact ⟨_, rfl⟩
      | ok body =>
        obtain ⟨epoch, rfl⟩ := encodeBody_eq_ok.mp hbody
        dsimp only
        rw [if_pos fun hnonce => h ⟨canonical, hbound, epoch, hnonce⟩]
        exact ⟨_, rfl⟩
    · rw [if_pos hbound]
      exact ⟨_, rfl⟩

theorem framed_partsOf (seals : Seals codec call) : Framed (partsOf codec call) := by
  have hlength : (keyIdBytes codec).length = codec.keyId.toList.length :=
    asciiBytes_length (ascii_of_keyId codec.canonical)
  have hlong := isSigningKeyId_length codec.canonical
  have hshort : codec.keyId.toList ≠ [] := by
    intro hempty
    have canonical := codec.canonical
    unfold isSigningKeyId at canonical
    rw [hempty] at canonical
    cases canonical
  have hpositive := List.length_pos_iff.mpr hshort
  refine ⟨⟨?_, ?_⟩, seals.nonce, codec.cipher.length_tag _ _ _⟩
  · change 1 ≤ (keyIdBytes codec).length
    omega
  · change (keyIdBytes codec).length ≤ 64
    omega

theorem decode_eq_some : decode codec sealings token context = .ok (some claims) ↔
    Canonical context ∧ ∃ parts body, Framed parts ∧ token = tokenFor parts ∧
      utf16Length token ≤ cursorMaxCharacters ∧ asciiText parts.keyId = codec.keyId ∧
      ⟨parts.nonce, aadFor codec context, body⟩ ∈ sealings ∧
      codec.cipher.sealBody parts.nonce (aadFor codec context) body =
        (parts.ciphertext, parts.tag) ∧
      claimsOf token context codec.keyId body = some claims := by
  unfold decode
  constructor
  · intro haccepted
    obtain ⟨parsed, hparse, hdecoded⟩ := bind_ok.mp haccepted
    obtain ⟨canonical, rfl⟩ := parseContext_eq_ok.mp hparse
    obtain ⟨blob, hblob, hrest⟩ := Option.bind_eq_some_iff.mp (Except.ok.inj hdecoded)
    obtain ⟨parts, hparts, hchecked⟩ := Option.bind_eq_some_iff.mp hrest
    obtain ⟨hkey, hopened⟩ := Option.ite_none_left_eq_some.mp hchecked
    obtain ⟨body, hbody, h⟩ := Option.bind_eq_some_iff.mp hopened
    obtain ⟨framed, rfl⟩ := splitBlob_eq_some.mp hparts
    obtain ⟨htoken, hlength, -⟩ := decodeBlob_eq_some.mp hblob
    obtain ⟨hmem, hsealed⟩ := openSealed_eq_some.mp hbody
    have key := not_not.mp hkey
    rw [key] at h
    exact ⟨canonical, parts, body, framed, htoken, hlength, key, hmem, hsealed, h⟩
  · rintro ⟨canonical, parts, body, framed, htoken, hlength, hkey, hmem, hsealed, h⟩
    have hblob : decodeBlob token = some (blobOf parts) :=
      decodeBlob_eq_some.mpr ⟨htoken, hlength, List.cons_ne_nil _ _⟩
    rw [parseContext_of_canonical canonical]
    change Except.ok ((decodeBlob token).bind _) = _
    rw [hblob]
    change Except.ok ((splitBlob (blobOf parts)).bind _) = _
    rw [splitBlob_eq_some.mpr ⟨framed, rfl⟩]
    change Except.ok (if _ then _ else _) = _
    rw [if_neg (not_not.mpr hkey), openSealed_eq_some.mpr ⟨hmem, hsealed⟩, hkey]
    exact congrArg Except.ok h

end

section

variable {codec : Codec} {history : History} {calls : List EncodeCall} {call : EncodeCall}
  {token : String} {context : ConversationCursorContext} {claims : ConversationCursorClaims}

/-- Each sealing is that of a call, whose token was returned if it is short enough; and a returned
token is that of a call that sealed. -/
structure Consistent (codec : Codec) (history : History) : Prop where
  sealings : ∀ sealing ∈ history.sealings, ∃ call, Seals codec call ∧
    sealing = sealingOf codec call ∧
    (utf16Length (tokenFor (partsOf codec call)) ≤ cursorMaxCharacters →
      (call, tokenFor (partsOf codec call)) ∈ history.issued)
  issued : ∀ call token, (call, token) ∈ history.issued → Seals codec call ∧
    token = tokenFor (partsOf codec call) ∧ utf16Length token ≤ cursorMaxCharacters ∧
    sealingOf codec call ∈ history.sealings

theorem consistent_encode (consistent : Consistent codec history) (call : EncodeCall) :
    Consistent codec (history.encode codec call) := by
  by_cases seals : Seals codec call
  · have hencode := @encode_of_seals codec call history.sealings seals
    unfold History.encode
    rw [hencode]
    split
    next returned sealings heq =>
      obtain ⟨hreturned, rfl⟩ := Prod.mk.inj heq
      obtain ⟨hlength, hreturned⟩ := guard_ok.mp hreturned
      cases hreturned
      refine ⟨fun sealing hsealing => ?_, fun other token hissued => ?_⟩
      · rcases List.mem_append.mp hsealing with hbefore | hnew
        · obtain ⟨earlier, hseals, hsame, hkept⟩ := consistent.sealings sealing hbefore
          exact ⟨earlier, hseals, hsame, fun h => List.mem_append_left _ (hkept h)⟩
        · exact ⟨call, seals, List.mem_singleton.mp hnew, fun _ =>
            List.mem_append_right _ (List.mem_singleton.mpr rfl)⟩
      · rcases List.mem_append.mp hissued with hbefore | hnew
        · obtain ⟨hseals, hsame, hshort, hkept⟩ := consistent.issued other token hbefore
          exact ⟨hseals, hsame, hshort, List.mem_append_left _ hkept⟩
        · cases List.mem_singleton.mp hnew
          exact ⟨seals, rfl, not_lt.mp hlength, List.mem_append_right _
            (List.mem_singleton.mpr rfl)⟩
    next failed sealings heq =>
      obtain ⟨hfailed, rfl⟩ := Prod.mk.inj heq
      have hlong : cursorMaxCharacters < utf16Length (tokenFor (partsOf codec call)) := by
        by_contra hshort
        rw [if_neg hshort] at hfailed
        cases hfailed
      refine ⟨fun sealing hsealing => ?_, fun other token hissued => ?_⟩
      · rcases List.mem_append.mp hsealing with hbefore | hnew
        · exact consistent.sealings sealing hbefore
        · exact ⟨call, seals, List.mem_singleton.mp hnew, fun h => absurd hlong (not_lt.mpr h)⟩
      · obtain ⟨hseals, hsame, hshort, hkept⟩ := consistent.issued other token hissued
        exact ⟨hseals, hsame, hshort, List.mem_append_left _ hkept⟩
  · obtain ⟨e, hencode⟩ := @encode_of_not_seals codec call history.sealings seals
    unfold History.encode
    rw [hencode]
    exact consistent

theorem consistent_encodeAll (calls : List EncodeCall) :
    Consistent codec (encodeAll codec calls) := by
  induction calls using List.reverseRecOn with
  | nil => exact ⟨fun _ h => absurd h List.not_mem_nil, fun _ _ h => absurd h List.not_mem_nil⟩
  | append_singleton calls call ih =>
    unfold encodeAll at ih ⊢
    rw [List.foldl_append]
    exact consistent_encode ih call

end

section

variable {codec : Codec} {call : EncodeCall} {text : String}

theorem utf16Length_ascii (ascii : Ascii text) : utf16Length text = text.toList.length := by
  have hone : text.toList.map (fun c => if c.toNat < 0x10000 then 1 else 2) =
      text.toList.map fun _ => 1 := by
    refine List.map_congr_left fun c hc => ?_
    have hsmall := ascii c hc
    exact if_pos (by omega)
  unfold utf16Length
  rw [hone, List.map_const', List.sum_replicate, smul_eq_mul, Nat.mul_one]

theorem ascii_tokenFor (parts : CursorBlob) : Ascii (tokenFor parts) := by
  have hprefix : (cursorPrefix.toList.all fun c => decide (c.toNat < 128)) = true := rfl
  have halphabet : (Base64Url.alphabet.all fun c => decide (c.toNat < 128)) = true := by
    rw [Base64Url.alphabet_eq]
    rfl
  intro c hc
  rw [tokenFor_eq, String.toList_append] at hc
  rcases List.mem_append.mp hc with hfront | hback
  · exact of_decide_eq_true (List.all_eq_true.mp hprefix c hfront)
  · unfold Base64Url.encode at hback
    rw [String.toList_ofList] at hback
    exact of_decide_eq_true (List.all_eq_true.mp halphabet c (Base64Url.encodeChars_mem hback))

theorem lengthPrefixed_length (ascii : Ascii text) :
    (ConversationCursors.lengthPrefixed text).length = 4 + text.toList.length := by
  unfold ConversationCursors.lengthPrefixed lengthPrefix
  rw [List.length_append, asciiBytes_length ascii]
  rfl

theorem token_length (parts : CursorBlob) : utf16Length (tokenFor parts) =
    4 + ((2 + parts.keyId.length + parts.nonce.length + parts.ciphertext.length +
      parts.tag.length) * 4 + 2) / 3 := by
  have hprefix : cursorPrefix.toList.length = 4 := rfl
  have hblob : (blobOf parts).length = 2 + parts.keyId.length + parts.nonce.length +
      parts.ciphertext.length + parts.tag.length := by
    unfold blobOf
    simp only [List.length_append, List.length_singleton]
  rw [utf16Length_ascii (ascii_tokenFor _), tokenFor_eq, String.toList_append, List.length_append]
  unfold Base64Url.encode
  rw [String.toList_ofList, Base64Url.encodeChars_length, hprefix, hblob]

theorem token_short (seals : Seals codec call) :
    utf16Length (tokenFor (partsOf codec call)) ≤ cursorMaxCharacters := by
  obtain ⟨⟨-, hkey⟩, hnonce, htag⟩ := framed_partsOf seals
  obtain ⟨⟨-, realm, -, installation, conversation⟩, bound, -, -⟩ := seals
  have key := codec.canonical
  obtain ⟨samekey, samerealm, sameinstallation, sameconversation⟩ := bound
  rw [← samekey] at key
  rw [← samerealm] at realm
  rw [← sameinstallation] at installation
  rw [← sameconversation] at conversation
  have hciphertext : (partsOf codec call).ciphertext.length = (bodyOf call.plaintext).length :=
    codec.cipher.length_ciphertext _ _ _
  have hbody : (bodyOf call.plaintext).length ≤ 241 := by
    have hposition : (JbChat.Store.CursorNonce.u64be (positionOf call.plaintext)).length = 8 := rfl
    have hissued :
        (JbChat.Store.CursorNonce.u64be (dateParse call.plaintext.issuedAt).toNat).length = 8 := rfl
    have hexpires :
        (JbChat.Store.CursorNonce.u64be (dateParse call.plaintext.expiresAt).toNat).length = 8 :=
      rfl
    have hrealm := isSigningKeyId_length realm
    have hinstallation := isUuidV4_length installation
    have hconversation := isUuidV4_length conversation
    have hkeyId := isSigningKeyId_length key
    unfold bodyOf
    simp only [List.length_append, List.length_singleton, hposition, hissued, hexpires,
      lengthPrefixed_length (ascii_of_keyId realm), lengthPrefixed_length (ascii_of_keyId key),
      lengthPrefixed_length (ascii_of_uuid installation),
      lengthPrefixed_length (ascii_of_uuid conversation)]
    omega
  rw [token_length]
  unfold cursorMaxCharacters
  omega

theorem encode_returns_iff {sealings : List Sealing} (canonical : Canonical call.context)
    (bound : Bound codec call.plaintext call.context) (nonce : call.nonce.length = 12) :
    (∃ token, (encode codec call sealings).1 = .ok token) ↔ SinceEpoch call.plaintext := by
  constructor
  · rintro ⟨token, htoken⟩
    by_contra early
    obtain ⟨e, hencode⟩ := @encode_of_not_seals codec call sealings fun seals => early seals.epoch
    rw [hencode] at htoken
    cases htoken
  · intro epoch
    have seals : Seals codec call := ⟨canonical, bound, epoch, nonce⟩
    rw [encode_of_seals seals, if_neg (not_lt.mpr (token_short seals))]
    exact ⟨_, rfl⟩

end

section

variable (codec : Codec) {history : History} {token : String}

def clearKeyId (token : String) : Bytes :=
  (((decodeBlob token).bind splitBlob).map CursorBlob.keyId).getD []

def SevenBitHeader (token : String) : Prop := ∀ byte ∈ clearKeyId token, byte.toNat < 128

variable {codec}

theorem clearKeyId_tokenFor {parts : CursorBlob} (framed : Framed parts)
    (short : utf16Length (tokenFor parts) ≤ cursorMaxCharacters) :
    clearKeyId (tokenFor parts) = parts.keyId := by
  have hblob : decodeBlob (tokenFor parts) = some (blobOf parts) :=
    decodeBlob_eq_some.mpr ⟨rfl, short, List.cons_ne_nil _ _⟩
  have hparts : splitBlob (blobOf parts) = some parts := splitBlob_eq_some.mpr ⟨framed, rfl⟩
  unfold clearKeyId
  rw [hblob, Option.bind_some, hparts]
  rfl

theorem decode_of_issued (consistent : Consistent codec history) {call : EncodeCall}
    (h : (call, token) ∈ history.issued) :
    decode codec history.sealings token call.context =
      .ok (some (claimsFor call.plaintext call.context token)) := by
  obtain ⟨seals, rfl, short, hmem⟩ := consistent.issued call token h
  refine decode_eq_some.mpr ⟨seals.canonical, partsOf codec call, bodyOf call.plaintext,
    framed_partsOf seals, rfl, short, asciiText_asciiBytes (ascii_of_keyId codec.canonical), hmem,
    rfl, claimsOf_bodyOf seals.canonical seals.bound seals.epoch _⟩

theorem issued_iff_sevenBit (consistent : Consistent codec history)
    {context : ConversationCursorContext} {claims : ConversationCursorClaims}
    (h : decode codec history.sealings token context = .ok (some claims)) :
    (∃ call, (call, token) ∈ history.issued ∧ call.context = context) ↔ SevenBitHeader token := by
  obtain ⟨canonical, parts, body, framed, rfl, short, hkey, hmem, hsealed, -⟩ :=
    decode_eq_some.mp h
  have hclear := clearKeyId_tokenFor framed short
  have ascii := ascii_of_keyId codec.canonical
  unfold SevenBitHeader
  rw [hclear]
  constructor
  · rintro ⟨call, hissued, -⟩
    obtain ⟨seals, htoken, -⟩ := consistent.issued call _ hissued
    rw [keyId_eq_of_token framed (framed_partsOf seals) htoken]
    exact sevenBit_asciiBytes ascii
  · intro small
    obtain ⟨call, seals, hsame, hissued⟩ := consistent.sealings _ hmem
    obtain ⟨hnonce, haad, hbody⟩ := Sealing.mk.inj hsame
    have hcontext : context = call.context := aadFor_injective canonical seals.canonical haad
    have hparts : parts = partsOf codec call := by
      have hclearKey : parts.keyId = keyIdBytes codec := by
        rw [← asciiBytes_asciiText small, hkey]
        rfl
      unfold partsOf
      rw [← hnonce, ← haad, ← hbody, hsealed, ← hclearKey]
    rw [hparts] at short ⊢
    exact ⟨call, hissued short, hcontext.symm⟩

/-- Cursors are read back, a token that is taken was returned for its context exactly when its
clear header is seven-bit, and a bound plaintext is encoded from the epoch on. -/
theorem cursor_codec (codec : Codec) (calls : List EncodeCall) :
    (∀ call token, (call, token) ∈ (encodeAll codec calls).issued →
      decode codec (encodeAll codec calls).sealings token call.context =
        .ok (some (claimsFor call.plaintext call.context token))) ∧
    (∀ token context claims,
      decode codec (encodeAll codec calls).sealings token context = .ok (some claims) →
        ((∃ call, (call, token) ∈ (encodeAll codec calls).issued ∧ call.context = context) ↔
          SevenBitHeader token)) ∧
    ∀ call sealings, Canonical call.context → Bound codec call.plaintext call.context →
      call.nonce.length = 12 →
        ((∃ token, (encode codec call sealings).1 = .ok token) ↔ SinceEpoch call.plaintext) :=
  ⟨fun _ _ h => decode_of_issued (consistent_encodeAll calls) h,
    fun _ _ _ h => issued_iff_sevenBit (consistent_encodeAll calls) h,
    fun _ _ canonical bound nonce => encode_returns_iff canonical bound nonce⟩

end

def sampleStream : Bytes :=
  [214, 164, 155, 58, 93, 116, 176, 93, 28, 168, 133, 231, 173, 41, 190, 161, 139, 103, 30, 170,
    192, 99, 142, 153, 98, 106, 216, 249, 154, 102, 185, 135, 13, 69, 180, 20, 218, 158, 91, 238,
    247, 206, 60, 217, 234, 155, 218, 60, 233, 189, 137, 225, 194, 70, 47, 58, 50, 123, 169, 112,
    160, 169, 29, 78, 120, 247, 49, 186, 35, 46, 46, 252, 117, 32, 44, 75, 26, 192, 163, 194, 157,
    229, 184, 203, 143, 166, 206, 117, 70, 153, 86, 34, 1, 132, 148, 113, 98, 21, 112, 202, 10, 193,
    60, 165, 115, 28, 75, 169, 155, 255, 54, 27, 112, 48, 103, 61, 136, 185, 142, 244, 212, 144,
    200, 1, 140, 51, 177, 103, 162, 30, 107, 160, 49, 221, 46, 47, 52, 21, 26, 234, 191, 15, 94]

def sampleTag : Bytes := [112, 163, 99, 61, 186, 121, 247, 126, 56, 179, 84, 177, 122, 116, 50, 195]

/-- Each byte of a body against the next byte of a stream, zero behind its end. -/
def xorStream : Bytes → Bytes → Bytes
  | _, [] => []
  | stream, byte :: body => (stream.headD 0 ^^^ byte) :: xorStream stream.tail body

theorem xorStream_length (stream body : Bytes) : (xorStream stream body).length = body.length := by
  induction body generalizing stream with
  | nil => rfl
  | cons byte body ih => rw [xorStream, List.length_cons, List.length_cons, ih]

theorem xorStream_injective {stream body other : Bytes}
    (h : xorStream stream body = xorStream stream other) : body = other := by
  induction body generalizing stream other with
  | nil =>
    cases other with
    | nil => rfl
    | cons second other => cases h
  | cons byte body ih =>
    cases other with
    | nil => cases h
    | cons second other =>
      rw [xorStream, xorStream] at h
      obtain ⟨hbyte, hbody⟩ := List.cons.inj h
      rw [(UInt8.xor_right_inj _).mp hbyte, ih hbody]

def sampleCodec : Codec where
  keyId := "cursor-key-2026q3"
  canonical := rfl
  cipher :=
    { sealBody := fun _ _ body => (xorStream sampleStream body, sampleTag)
      length_ciphertext := fun _ _ body => xorStream_length sampleStream body
      length_tag := fun _ _ _ => rfl
      injective := fun _ _ _ _ h => xorStream_injective (Prod.mk.inj h).1 }

def sampleContext : ConversationCursorContext where
  realmId := "fictional-lab"
  accountId := "7f94c690-2af4-4a45-a7cc-9d85ce6cbd26"
  installationId := "5ec2d18e-f082-48f0-8b01-55e43fed021c"
  conversationId := "0f5f0d0a-95a5-4c7e-b3a5-b64ec91b0f96"
  routeTemplate := conversationEventsRouteTemplate

def samplePlaintext : ConversationCursorPlaintext where
  realmId := "fictional-lab"
  installationId := "5ec2d18e-f082-48f0-8b01-55e43fed021c"
  conversationId := "0f5f0d0a-95a5-4c7e-b3a5-b64ec91b0f96"
  lastReturnedPosition := "7"
  issuedAt := "2026-08-14T16:20:45.123Z"
  expiresAt := "2026-08-15T16:20:45.123Z"
  keyId := "cursor-key-2026q3"
  position_decimal := rfl
  position_bound := by decide
  issuedAt_canonical := rfl
  expiresAt_canonical := rfl

def sampleCall : EncodeCall := ⟨samplePlaintext, sampleContext, List.replicate 11 0 ++ [1]⟩

theorem sampleCall_seals : Seals sampleCodec sampleCall where
  canonical := ⟨rfl, rfl, rfl, rfl, rfl⟩
  bound := ⟨rfl, rfl, rfl, rfl⟩
  epoch := ⟨by decide +kernel, by decide +kernel⟩
  nonce := rfl

theorem sample_history : encodeAll sampleCodec [sampleCall] =
    ⟨[sealingOf sampleCodec sampleCall],
      [(sampleCall, tokenFor (partsOf sampleCodec sampleCall))]⟩ := by
  unfold encodeAll
  rw [List.foldl_cons, List.foldl_nil]
  unfold History.encode
  rw [encode_of_seals sampleCall_seals, if_neg (not_lt.mpr (token_short sampleCall_seals))]
  rfl

/-- The sample cursor is read back from its token. -/
theorem sample_cursor_read : decode sampleCodec (encodeAll sampleCodec [sampleCall]).sealings
    (tokenFor (partsOf sampleCodec sampleCall)) sampleContext =
      .ok (some (claimsFor samplePlaintext sampleContext
        (tokenFor (partsOf sampleCodec sampleCall)))) :=
  (cursor_codec sampleCodec [sampleCall]).1 sampleCall _ (by
    rw [sample_history]
    exact List.mem_cons_self)

/-- The sample token with the high bit of each clear key byte set. -/
def respelledParts : CursorBlob :=
  { partsOf sampleCodec sampleCall with
    keyId := (keyIdBytes sampleCodec).map fun byte => byte ||| 0x80 }

/-- A token that was never returned is taken for the sample cursor. -/
theorem respelled_token_taken :
    decode sampleCodec (encodeAll sampleCodec [sampleCall]).sealings (tokenFor respelledParts)
        sampleContext =
      .ok (some (claimsFor samplePlaintext sampleContext (tokenFor respelledParts))) ∧
    ∀ call token, (call, token) ∈ (encodeAll sampleCodec [sampleCall]).issued →
      token ≠ tokenFor respelledParts := by
  have framed : Framed respelledParts :=
    ⟨by decide, sampleCall_seals.nonce, (framed_partsOf sampleCall_seals).tag⟩
  have short : utf16Length (tokenFor respelledParts) ≤ cursorMaxCharacters := by
    have hshort := token_short sampleCall_seals
    have hkey : respelledParts.keyId.length = (partsOf sampleCodec sampleCall).keyId.length :=
      List.length_map ..
    have hnonce : respelledParts.nonce = (partsOf sampleCodec sampleCall).nonce := rfl
    have hciphertext : respelledParts.ciphertext = (partsOf sampleCodec sampleCall).ciphertext :=
      rfl
    have htag : respelledParts.tag = (partsOf sampleCodec sampleCall).tag := rfl
    rw [token_length] at hshort ⊢
    rw [hkey, hnonce, hciphertext, htag]
    exact hshort
  have hkeyId : asciiText respelledParts.keyId = sampleCodec.keyId := by decide
  rw [sample_history]
  constructor
  · exact decode_eq_some.mpr ⟨sampleCall_seals.canonical, respelledParts, bodyOf samplePlaintext,
      framed, rfl, short, hkeyId, List.mem_cons_self, rfl,
      claimsOf_bodyOf sampleCall_seals.canonical sampleCall_seals.bound sampleCall_seals.epoch _⟩
  · intro call token h htoken
    cases List.mem_singleton.mp h
    have hsame : keyIdBytes sampleCodec = (keyIdBytes sampleCodec).map fun byte => byte ||| 0x80 :=
      keyId_eq_of_token (framed_partsOf sampleCall_seals) framed htoken
    exact absurd hsame (by decide +kernel)

end JbChat.Http.CursorTokens
