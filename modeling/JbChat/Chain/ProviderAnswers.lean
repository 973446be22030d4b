/- source: src/production/chain/quorumReads.ts
   digest: The JSON values that providers answer, and the texts and quantities read of them. -/

import JbChat.Authority.ValueObjects

/-!
An answer is any JSON value. Its members are read without a check of their type, and each is
turned into a text by `String`. That fails on `null` as a record, and on an object with a
member of its own called `toString`, also inside an array.
-/

set_option autoImplicit false

namespace JbChat.Chain.ProviderAnswers

open Delivery.ValueObjects Authority.ValueObjects

/-- A JSON value. A number is given by the text that `String` makes of it, and no text has an
unpaired surrogate. -/
inductive Json where
  | null
  | boolean (value : Bool)
  | number (text : String)
  | text (value : String)
  | array (entries : List Json)
  | object (members : List (String × Json))

/-- What is thrown: by a transport, by the language, or by a check of the reader. -/
inductive Thrown where
  | rejected
  | typeError
  | malformed (message : String)
deriving DecidableEq

/-- `record.key` on a record as it came; what is missing is `undefined`. -/
def Json.property (record : Json) (key : String) : Except Thrown (Option Json) :=
  match record with
  | .null => .error .typeError
  | .object members =>
    .ok ((members.find? fun member => decide (member.1 = key)).map fun member => member.2)
  | _ => .ok none

/-- The entries of an array; anything else has none. -/
def entriesOf : Option Json → List Json
  | some (.array entries) => entries
  | _ => []

def Json.isNull : Json → Bool
  | .null => true
  | _ => false

def expectBlock (value : Json) : Except Thrown Json :=
  match value with
  | .object members => .ok (.object members)
  | _ => .error (.malformed "Malformed block response.")

section

mutual

/-- `String(value)`, for arrays nested no deeper than the call stack. -/
def toText : Json → Except Thrown String
  | .null => .ok "null"
  | .boolean value => .ok (if value then "true" else "false")
  | .number text => .ok text
  | .text value => .ok value
  | .array entries => do
    let texts ← entryTexts entries
    .ok (String.intercalate "," texts)
  | .object members =>
    if members.any fun member => decide (member.1 = "toString") then .error .typeError
    else .ok "[object Object]"

/-- The entries that `Array.prototype.join` puts together. -/
def entryTexts : List Json → Except Thrown (List String)
  | [] => .ok []
  | .null :: entries => do
    let texts ← entryTexts entries
    .ok ("" :: texts)
  | entry :: entries => do
    let text ← toText entry
    let texts ← entryTexts entries
    .ok (text :: texts)

end

def textOf : Option Json → Except Thrown String
  | none => .ok "undefined"
  | some value => toText value

variable (lowerCase : String → String)

def lower (value : Option Json) : Except Thrown String := (textOf value).map lowerCase

def lowerProperty (record : Json) (key : String) : Except Thrown String := do
  let value ← record.property key
  lower lowerCase value

end

section

/-- `/^0x(0|[1-9a-f][0-9a-f]*)$/` -/
def isHexQuantity (text : String) : Bool :=
  match text.toList with
  | ['0', 'x', '0'] => true
  | '0' :: 'x' :: first :: rest => (first != '0') && (first :: rest).all isLowerHex
  | _ => false

/-- `/^0x(?:[0-9a-f]{2})*$/` -/
def isHexData (text : String) : Bool :=
  match text.toList with
  | '0' :: 'x' :: digits => decide (digits.length % 2 = 0) && digits.all isLowerHex
  | _ => false

def digitValue (c : Char) : Nat := if c.isDigit then c.toNat - 48 else c.toNat - 87

/-- `BigInt(text)` of a quantity. -/
def quantityOf (text : String) : Nat :=
  (text.toList.drop 2).foldl (fun value c => 16 * value + digitValue c) 0

variable (lowerCase : String → String)

def readQuantity (text label : String) : Except Thrown Nat :=
  if isHexQuantity text then .ok (quantityOf text)
  else .error (.malformed (label ++ " is not a canonical hex quantity."))

def hexQuantity (value : Option Json) (label : String) : Except Thrown Nat := do
  let text ← lower lowerCase value
  readQuantity text label

def readPattern (pattern : String → Bool) (message text : String) : Except Thrown String :=
  if pattern text then .ok text else .error (.malformed message)

def readHash (text label : String) : Except Thrown String :=
  readPattern (isCanonicalHex 64) (label ++ " is not a 32-byte hex value.") text

def readAddress (text : String) : Except Thrown String :=
  readPattern (isCanonicalHex 40) "Log emitter is not a 20-byte hex address." text

def readData (text : String) : Except Thrown String :=
  readPattern isHexData "Log data is not canonical hex." text

def hexHash (value : Option Json) (label : String) : Except Thrown String := do
  let text ← lower lowerCase value
  readHash text label

def hexAddress (value : Option Json) : Except Thrown String := do
  let text ← lower lowerCase value
  readAddress text

def hexData (value : Option Json) : Except Thrown String := do
  let text ← lower lowerCase value
  readData text

variable {label message text : String} {pattern : String → Bool}

theorem readQuantity_eq_ok {quantity : Nat} : readQuantity text label = .ok quantity ↔
    isHexQuantity text = true ∧ quantity = quantityOf text := by
  unfold readQuantity
  split_ifs with h
  · rw [Except.ok.injEq, eq_comm]
    exact ⟨fun hsame => ⟨h, hsame⟩, fun hsame => hsame.2⟩
  · exact ⟨fun hsame => (by cases hsame), fun hsame => absurd hsame.1 h⟩

theorem readPattern_eq_ok {read : String} : readPattern pattern message text = .ok read ↔
    pattern text = true ∧ read = text := by
  unfold readPattern
  split_ifs with h
  · rw [Except.ok.injEq, eq_comm]
    exact ⟨fun hsame => ⟨h, hsame⟩, fun hsame => hsame.2⟩
  · exact ⟨fun hsame => (by cases hsame), fun hsame => absurd hsame.1 h⟩

end

end JbChat.Chain.ProviderAnswers
