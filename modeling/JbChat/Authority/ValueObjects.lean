/- source: src/production/authority/valueObjects.ts
   digest: Untrusted values, the exact records among them, and the texts that the parsers accept. -/

import JbChat.Delivery.Instants

/-!
A parsed value carries the proof that it is well formed. Counters are kept as the numbers that
their canonical texts denote, instants as their texts.
-/

set_option autoImplicit false

namespace JbChat.Authority.ValueObjects

open Delivery.ValueObjects Delivery.Instants Delivery.ValueObjects

/-- A value of an unknown type. A number is told apart by `Number.isInteger` and its sign of zero;
an object that is no plain record is `exotic`, what is no JSON value at all is `foreign`. -/
inductive JsonValue where
  | null
  | boolean (value : Bool)
  | integer (value : Int)
  | negativeZero
  | fraction (text : String)
  | text (value : String)
  | array (entries : List JsonValue)
  | record (members : List (String × JsonValue))
  | exotic
  | undefined
  | foreign

abbrev Members := List (String × JsonValue)

def property (members : Members) (key : String) : JsonValue :=
  ((members.find? fun member => decide (member.1 = key)).map Prod.snd).getD .undefined

def JsonValue.isUndefined : JsonValue → Bool
  | .undefined => true
  | _ => false

def JsonValue.isNull : JsonValue → Bool
  | .null => true
  | _ => false

def JsonValue.isText (expected : String) : JsonValue → Bool
  | .text value => decide (value = expected)
  | _ => false

def JsonValue.isInteger (expected : Int) : JsonValue → Bool
  | .integer value => decide (value = expected)
  | _ => false

structure AuthorityValidationError where
  message : String

abbrev Checked (α : Type) := Except AuthorityValidationError α

def invalid {α : Type} (message : String) : Checked α := .error ⟨message⟩

def expectExactRecord (value : JsonValue) (keys : List String) (label : String) :
    Checked Members :=
  match value with
  | .record members =>
    if members.length ≠ keys.length ∨ (∃ key ∈ keys, key ∉ members.map Prod.fst) ∨
        ∃ member ∈ members, member.1 ∉ keys ∨ member.2.isUndefined = true then
      invalid (label ++ " has an unexpected shape.")
    else .ok members
  | _ => invalid (label ++ " must be a plain object.")

/-- A value that is `null` or parsed. -/
def parseNullable {α : Type} (value : JsonValue) (parse : JsonValue → Checked α) :
    Checked (Option α) :=
  if value.isNull then .ok none else (parse value).map some

section

variable {c : Char} {digits : Nat} {text : String}

def isHexDigit (c : Char) : Bool := c.isDigit || ('a' ≤ c && c ≤ 'f') || ('A' ≤ c && c ≤ 'F')

/-- `/^0x[0-9a-fA-F]{digits}$/` -/
def isHex (digits : Nat) (text : String) : Bool :=
  match text.toList with
  | '0' :: 'x' :: rest => decide (rest.length = digits) && rest.all isHexDigit
  | _ => false

/-- The text of a parsed hexadecimal value. -/
def isCanonicalHex (digits : Nat) (text : String) : Bool :=
  match text.toList with
  | '0' :: 'x' :: rest => decide (rest.length = digits) && rest.all isLowerHex
  | _ => false

/-- `toLowerCase` on ASCII. -/
def toLowerCase (text : String) : String := String.ofList (text.toList.map Char.toLower)

theorem isLowerHex_toLower (h : isHexDigit c = true) :
    isLowerHex c.toLower = true := by
  have hback : Char.ofNat c.toNat = c := Char.ofNat_toNat c
  have hrange : (48 ≤ c.toNat ∧ c.toNat ≤ 57) ∨ (97 ≤ c.toNat ∧ c.toNat ≤ 102) ∨
      (65 ≤ c.toNat ∧ c.toNat ≤ 70) := by
    unfold isHexDigit Char.isDigit at h
    simp only [Bool.or_eq_true, Bool.and_eq_true, decide_eq_true_eq] at h
    rcases h with (⟨low, high⟩ | ⟨low, high⟩) | ⟨low, high⟩
    · exact Or.inl ⟨low, high⟩
    · exact Or.inr (Or.inl ⟨low, high⟩)
    · exact Or.inr (Or.inr ⟨low, high⟩)
  rw [← hback]
  generalize c.toNat = n at hrange
  rcases hrange with ⟨low, high⟩ | ⟨low, high⟩ | ⟨low, high⟩ <;> interval_cases n <;> rfl

theorem toLower_of_isLowerHex (h : isLowerHex c = true) : c.toLower = c := by
  unfold Char.toLower
  rw [dif_neg]
  unfold isLowerHex Char.isDigit at h
  simp only [Bool.or_eq_true, Bool.and_eq_true, decide_eq_true_eq] at h
  rintro ⟨low, high⟩
  rcases h with ⟨-, hhigh⟩ | ⟨hlow, -⟩
  · exact absurd (UInt32.le_trans low hhigh) (by decide)
  · exact absurd (UInt32.le_trans hlow high) (by decide)

theorem isHexDigit_of_isLowerHex (h : isLowerHex c = true) : isHexDigit c = true := by
  unfold isHexDigit
  unfold isLowerHex at h
  rw [h, Bool.true_or]

theorem isCanonicalHex_toLowerCase (h : isHex digits text = true) :
    isCanonicalHex digits (toLowerCase text) = true := by
  unfold isHex at h
  unfold isCanonicalHex toLowerCase
  rw [String.toList_ofList]
  split at h
  next rest htext =>
    rw [htext]
    rw [Bool.and_eq_true, decide_eq_true_eq, List.all_eq_true] at h
    change (decide ((rest.map Char.toLower).length = digits) &&
      (rest.map Char.toLower).all isLowerHex) = true
    rw [List.length_map, decide_eq_true h.1, Bool.true_and, List.all_eq_true]
    intro c hc
    obtain ⟨digit, hdigit, rfl⟩ := List.mem_map.mp hc
    exact isLowerHex_toLower (h.2 digit hdigit)
  · cases h

theorem isHex_of_isCanonicalHex
    (h : isCanonicalHex digits text = true) : isHex digits text = true := by
  unfold isCanonicalHex at h
  unfold isHex
  split at h
  next rest htext =>
    rw [Bool.and_eq_true, List.all_eq_true] at h
    rw [h.1, Bool.true_and, List.all_eq_true]
    exact fun c hc => isHexDigit_of_isLowerHex (h.2 c hc)
  · cases h

theorem toLowerCase_of_isCanonicalHex
    (h : isCanonicalHex digits text = true) : toLowerCase text = text := by
  unfold isCanonicalHex at h
  unfold toLowerCase
  split at h
  next rest htext =>
    rw [Bool.and_eq_true, List.all_eq_true] at h
    have hsame : text.toList.map Char.toLower = text.toList := by
      rw [htext]
      change '0' :: 'x' :: rest.map Char.toLower = _
      rw [List.map_congr_left fun c hc => toLower_of_isLowerHex (h.2 c hc), List.map_id']
    rw [hsame, String.ofList_toList]
  · cases h

end

def uint256Max : Nat := 2 ^ 256 - 1

def maxSafeInteger : Nat := 2 ^ 53 - 1

def isIdStart (c : Char) : Bool := c.isDigit || ('a' ≤ c && c ≤ 'z') || ('A' ≤ c && c ≤ 'Z')

/-- `/^[A-Za-z0-9][A-Za-z0-9._:-]{0,127}$/` -/
def isAuthorityId (text : String) : Bool :=
  match text.toList with
  | [] => false
  | first :: rest => isIdStart first && decide (rest.length ≤ 127) &&
      rest.all fun c => isIdStart c || decide (c ∈ ['.', '_', ':', '-'])

def chainIds : List Nat := [1, 10, 8453, 42161, 11155111, 11155420, 84532, 421614]

abbrev AuthorityId := { text : String // isAuthorityId text = true }

abbrev Hash32 := { text : String // isCanonicalHex 64 text = true }

def zeroAddress : String := "0x0000000000000000000000000000000000000000"

abbrev EthereumAddress := { text : String // isCanonicalHex 40 text = true ∧ text ≠ zeroAddress }

abbrev Uint256Decimal := { number : Nat // number ≤ uint256Max }

abbrev CanonicalInstant := { text : String // isRfc3339Millis text = true }

abbrev JuiceboxV6ChainId := { number : Nat // number ∈ chainIds }

abbrev ProjectId := { number : Nat // 1 ≤ number ∧ number ≤ maxSafeInteger }

/-- A non-negative safe integer. -/
abbrev SafeIndex := { number : Nat // number ≤ maxSafeInteger }

def parseEthereumAddress (value : JsonValue) (label : String) : Checked EthereumAddress :=
  match value with
  | .text text =>
    if h : isHex 40 text = true then
      if hzero : toLowerCase text = zeroAddress then
        invalid (label ++ " must not be the zero address.")
      else .ok ⟨toLowerCase text, isCanonicalHex_toLowerCase h, hzero⟩
    else invalid (label ++ " must be a 20-byte hex address.")
  | _ => invalid (label ++ " must be a 20-byte hex address.")

def parseHash32 (value : JsonValue) (label : String) : Checked Hash32 :=
  match value with
  | .text text =>
    if h : isHex 64 text = true then .ok ⟨toLowerCase text, isCanonicalHex_toLowerCase h⟩
    else invalid (label ++ " must be a 32-byte hex value.")
  | _ => invalid (label ++ " must be a 32-byte hex value.")

def parseUint256Decimal (value : JsonValue) (label : String) : Checked Uint256Decimal :=
  match value with
  | .text text =>
    if isDecimal text.toList then
      if h : text.length ≤ 78 ∧ Nat.ofDigitChars 10 text.toList 0 ≤ uint256Max then
        .ok ⟨Nat.ofDigitChars 10 text.toList 0, h.2⟩
      else invalid (label ++ " exceeds uint256.")
    else invalid (label ++ " must be a canonical decimal string.")
  | _ => invalid (label ++ " must be a canonical decimal string.")

def parseLogIndex (value : JsonValue) (label : String) : Checked SafeIndex :=
  match value with
  | .integer number =>
    if h : 0 ≤ number ∧ number.toNat ≤ maxSafeInteger then .ok ⟨number.toNat, h.2⟩
    else invalid (label ++ " must be a non-negative safe integer.")
  | _ => invalid (label ++ " must be a non-negative safe integer.")

def parseCanonicalInstant (value : JsonValue) (label : String) : Checked CanonicalInstant :=
  match value with
  | .text text =>
    if ¬ matchesEach rfc3339Tests text.toList then
      invalid (label ++ " must be canonical UTC RFC 3339 with milliseconds.")
    else if h : isRfc3339Millis text = true then .ok ⟨text, h⟩
    else invalid (label ++ " is not a real canonical instant.")
  | _ => invalid (label ++ " must be canonical UTC RFC 3339 with milliseconds.")

def parseAuthorityId (value : JsonValue) (label : String) : Checked AuthorityId :=
  match value with
  | .text text =>
    if h : isAuthorityId text = true then .ok ⟨text, h⟩ else invalid (label ++ " is invalid.")
  | _ => invalid (label ++ " is invalid.")

def parseJuiceboxV6ChainId (value : JsonValue) (label : String) : Checked JuiceboxV6ChainId :=
  match value with
  | .integer number =>
    if h : 0 ≤ number ∧ number.toNat ∈ chainIds then .ok ⟨number.toNat, h.2⟩
    else invalid (label ++ " is not an allowlisted Juicebox v6 chain.")
  | _ => invalid (label ++ " is not an allowlisted Juicebox v6 chain.")

structure JuiceboxV6ProjectRef where
  chainId : JuiceboxV6ChainId
  projectId : ProjectId
  deploymentManifestId : AuthorityId
  projectsContract : EthereumAddress
deriving DecidableEq

def parseProjectId (value : JsonValue) (label : String) : Checked ProjectId :=
  match value with
  | .integer number =>
    if h : 1 ≤ number ∧ number.toNat ≤ maxSafeInteger then .ok ⟨number.toNat, by omega, h.2⟩
    else invalid (label ++ ".projectId must be a positive safe integer.")
  | _ => invalid (label ++ ".projectId must be a positive safe integer.")

def parseJuiceboxV6ProjectRef (value : JsonValue) (label : String) :
    Checked JuiceboxV6ProjectRef := do
  let record ← expectExactRecord value
    ["protocol", "chainId", "projectId", "version", "deploymentManifestId", "projectsContract"] label
  if ¬ (property record "protocol").isText "juicebox-v6" ∨
      ¬ (property record "version").isInteger 6 then
    invalid (label ++ " must identify Juicebox v6 exactly.")
  else do
    let projectId ← parseProjectId (property record "projectId") label
    let chainId ← parseJuiceboxV6ChainId (property record "chainId") (label ++ ".chainId")
    let deploymentManifestId ← parseAuthorityId (property record "deploymentManifestId")
      (label ++ ".deploymentManifestId")
    let projectsContract ← parseEthereumAddress (property record "projectsContract")
      (label ++ ".projectsContract")
    .ok ⟨chainId, projectId, deploymentManifestId, projectsContract⟩

def instantMilliseconds (value : CanonicalInstant) : Int := dateParse value.val

def sameJuiceboxV6ProjectRef (left right : JuiceboxV6ProjectRef) : Bool :=
  decide (left.chainId = right.chainId ∧ left.projectId = right.projectId ∧
    left.deploymentManifestId = right.deploymentManifestId ∧
    left.projectsContract = right.projectsContract)

theorem sameJuiceboxV6ProjectRef_iff {left right : JuiceboxV6ProjectRef} :
    sameJuiceboxV6ProjectRef left right = true ↔ left = right := by
  unfold sameJuiceboxV6ProjectRef
  rw [decide_eq_true_eq]
  constructor
  · rintro ⟨hchain, hproject, hmanifest, hcontract⟩
    cases left
    cases right
    simp_all
  · rintro rfl
    exact ⟨rfl, rfl, rfl, rfl⟩

/-- The canonical decimal text of a counter. -/
def decimal (number : Uint256Decimal) : JsonValue := .text number.val.repr

/-- A text that may be absent. -/
def nullable {α : Type} (render : α → JsonValue) : Option α → JsonValue
  | none => .null
  | some value => render value

def projectJson (project : JuiceboxV6ProjectRef) : JsonValue :=
  .record [("protocol", .text "juicebox-v6"), ("chainId", .integer project.chainId.val),
    ("projectId", .integer project.projectId.val), ("version", .integer 6),
    ("deploymentManifestId", .text project.deploymentManifestId.val),
    ("projectsContract", .text project.projectsContract.val)]

section

variable {α : Type}

@[simp] theorem checked_bind {β : Type} (value : α) (next : α → Checked β) :
    ((.ok value : Checked α) >>= next) = next value := rfl

@[simp] theorem isText_text (expected value : String) :
    (JsonValue.text value).isText expected = decide (value = expected) := rfl

@[simp] theorem isInteger_integer (expected value : Int) :
    (JsonValue.integer value).isInteger expected = decide (value = expected) := rfl

@[simp] theorem property_cons_self (key : String) (value : JsonValue) (members : Members) :
    property ((key, value) :: members) key = value := by
  unfold property
  rw [List.find?_cons, decide_eq_true rfl]
  rfl

@[simp] theorem property_cons_ne {key other : String} (h : other ≠ key) (value : JsonValue)
    (members : Members) : property ((other, value) :: members) key = property members key := by
  unfold property
  rw [List.find?_cons, decide_eq_false h]

theorem expectExactRecord_of_keys {members : Members} {keys : List String}
    (h : members.map Prod.fst = keys) (defined : ∀ member ∈ members, member.2.isUndefined = false)
    (label : String) : expectExactRecord (.record members) keys label = .ok members := by
  unfold expectExactRecord
  dsimp only
  rw [if_neg]
  push Not
  refine ⟨by rw [← h, List.length_map], fun key hkey => h ▸ hkey, fun member hmember => ?_⟩
  rw [← h, defined member hmember]
  exact ⟨List.mem_map_of_mem hmember, Bool.false_ne_true⟩

theorem isUndefined_nullable {render : α → JsonValue}
    (h : ∀ value, (render value).isUndefined = false) (value : Option α) :
    (nullable render value).isUndefined = false := by
  cases value with
  | none => rfl
  | some value => exact h value

theorem parseNullable_nullable {render : α → JsonValue} {parse : JsonValue → Checked α}
    (hnull : ∀ value, (render value).isNull = false) (h : ∀ value, parse (render value) = .ok value)
    (value : Option α) : parseNullable (nullable render value) parse = .ok value := by
  unfold parseNullable
  cases value with
  | none => rfl
  | some value =>
    change (if (render value).isNull = true then .ok none else (parse (render value)).map some) = _
    rw [hnull value, if_neg Bool.false_ne_true, h value]
    rfl

@[simp] theorem parseEthereumAddress_text (address : EthereumAddress) (label : String) :
    parseEthereumAddress (.text address.val) label = .ok address := by
  unfold parseEthereumAddress
  dsimp only
  have hsame := toLowerCase_of_isCanonicalHex address.property.1
  have hzero : toLowerCase address.val ≠ zeroAddress := by
    rw [hsame]
    exact address.property.2
  rw [dif_pos (isHex_of_isCanonicalHex address.property.1), dif_neg hzero]
  exact congrArg Except.ok (Subtype.ext hsame)

@[simp] theorem parseHash32_text (hash : Hash32) (label : String) :
    parseHash32 (.text hash.val) label = .ok hash := by
  unfold parseHash32
  dsimp only
  rw [dif_pos (isHex_of_isCanonicalHex hash.property)]
  exact congrArg Except.ok (Subtype.ext (toLowerCase_of_isCanonicalHex hash.property))

@[simp] theorem parseLogIndex_integer (index : SafeIndex) (label : String) :
    parseLogIndex (.integer index.val) label = .ok index := by
  unfold parseLogIndex
  dsimp only
  rw [dif_pos ⟨Int.natCast_nonneg _, by rw [Int.toNat_natCast]; exact index.property⟩]
  exact congrArg Except.ok (Subtype.ext (Int.toNat_natCast _))

@[simp] theorem parseCanonicalInstant_text (instant : CanonicalInstant) (label : String) :
    parseCanonicalInstant (.text instant.val) label = .ok instant := by
  have hmatches : matchesEach rfc3339Tests instant.val.toList = true := by
    have h := instant.property
    unfold isRfc3339Millis at h
    exact (Bool.and_eq_true_iff.mp h).1
  unfold parseCanonicalInstant
  dsimp only
  rw [if_neg (not_not.mpr hmatches), dif_pos instant.property]

@[simp] theorem parseAuthorityId_text (id : AuthorityId) (label : String) :
    parseAuthorityId (.text id.val) label = .ok id := by
  unfold parseAuthorityId
  dsimp only
  rw [dif_pos id.property]

@[simp] theorem parseJuiceboxV6ChainId_integer (chainId : JuiceboxV6ChainId) (label : String) :
    parseJuiceboxV6ChainId (.integer chainId.val) label = .ok chainId := by
  unfold parseJuiceboxV6ChainId
  dsimp only
  rw [dif_pos ⟨Int.natCast_nonneg _, by rw [Int.toNat_natCast]; exact chainId.property⟩]
  exact congrArg Except.ok (Subtype.ext (Int.toNat_natCast _))

@[simp] theorem parseProjectId_integer (projectId : ProjectId) (label : String) :
    parseProjectId (.integer projectId.val) label = .ok projectId := by
  have hbounds := projectId.property
  unfold parseProjectId
  dsimp only
  rw [dif_pos ⟨by omega, by rw [Int.toNat_natCast]; exact hbounds.2⟩]
  exact congrArg Except.ok (Subtype.ext (Int.toNat_natCast _))

@[simp] theorem parseUint256Decimal_decimal (number : Uint256Decimal) (label : String) :
    parseUint256Decimal (decimal number) label = .ok number := by
  have hlength : number.val.repr.length ≤ 78 := by
    have hmax : uint256Max < 10 ^ 78 := by decide
    exact (Nat.length_repr_le_iff (by decide)).mpr (Nat.lt_of_le_of_lt number.property hmax)
  have hvalue : Nat.ofDigitChars 10 number.val.repr.toList 0 = number.val := by
    rw [Nat.toList_repr, Nat.ofDigitChars_ten_toDigits]
  unfold parseUint256Decimal decimal
  dsimp only
  rw [if_pos (isDecimal_repr number.val), dif_pos ⟨hlength, by rw [hvalue]; exact number.property⟩]
  exact congrArg Except.ok (Subtype.ext hvalue)

@[simp] theorem parseJuiceboxV6ProjectRef_projectJson (project : JuiceboxV6ProjectRef) (label : String) :
    parseJuiceboxV6ProjectRef (projectJson project) label = .ok project := by
  unfold parseJuiceboxV6ProjectRef projectJson
  rw [expectExactRecord_of_keys]
  · simp
  · rfl
  · simp [JsonValue.isUndefined]

theorem parseNullable_id (id : Option AuthorityId) (label : String) :
    parseNullable (nullable (fun id => .text id.val) id)
      (fun value => parseAuthorityId value label) = .ok id :=
  parseNullable_nullable (fun _ => rfl) (fun id => parseAuthorityId_text id label) id

theorem parseNullable_hash (hash : Option Hash32) (label : String) :
    parseNullable (nullable (fun hash => .text hash.val) hash)
      (fun value => parseHash32 value label) = .ok hash :=
  parseNullable_nullable (fun _ => rfl) (fun hash => parseHash32_text hash label) hash

theorem parseNullable_address (address : Option EthereumAddress) (label : String) :
    parseNullable (nullable (fun address => .text address.val) address)
      (fun value => parseEthereumAddress value label) = .ok address :=
  parseNullable_nullable (fun _ => rfl) (fun address => parseEthereumAddress_text address label)
    address

theorem isUndefined_nullableText (text : α → String) (value : Option α) :
    (nullable (fun value => .text (text value)) value).isUndefined = false :=
  isUndefined_nullable (fun _ => rfl) value

end

end JbChat.Authority.ValueObjects
