/- source: src/embed/runtime.ts
   digest: The values a window message carries, and their bounded structured size. -/

import JbChat.Foundation.CanonicalJson
import JbChat.Foundation.Numbers

/-!
A value is a tree: an object that is reached again inside itself stands there as `enclosing`.
A number is its `String(value)`, which tells all numbers apart except the two zeros. Strings and
names are lists of UTF-16 code units.
-/

set_option autoImplicit false

namespace JbChat.Embed.StructuredSize

open Foundation.CodeUnits Foundation.JsonGrammar Foundation.CanonicalJson Foundation.Numbers

inductive StructuredValue where
  | null
  | undefined
  | boolean (value : Bool)
  | number (text : String)
  | string (units : List Nat)
  /-- `canonical`: the prototype is `Array.prototype`, no symbols, no holes, no other names. -/
  | array (canonical : Bool) (entries : List StructuredValue)
  /-- `plain`: the prototype is `Object.prototype` or `null`. -/
  | object (plain : Bool) (fields : List (Name × StructuredValue))
  | enclosing
  /-- Functions, symbols and big integers. -/
  | unsupported

def StructuredValue.text (value : String) : StructuredValue := .string (codeUnits value)

def StructuredValue.record (fields : List (String × StructuredValue)) : StructuredValue :=
  .object true (fields.map fun field => (codeUnits field.1, field.2))

def maxStructuredDepth : Nat := 8

def maxContainerEntries : Nat := 64

def isFinite (text : String) : Bool :=
  text != "NaN" && text != "Infinity" && text != "-Infinity"

/-- The bytes of a text in UTF-8. -/
def utf8Bytes (chars : List Char) : Nat := (chars.map Char.utf8Size).sum

def jsonStringBytes (units : List Nat) : Nat := utf8Bytes (quote units)

/-- The answer for a value that is over the budget: one more than what remains of it. -/
def overBudget (remaining : Number) : Number := remaining.add (ofInt 1)

mutual

def structuredSize : StructuredValue → Number → Nat → Number
  | .null, remaining, depth =>
    if remaining.lt (ofInt 0) ∨ maxStructuredDepth < depth then overBudget remaining else ofInt 4
  | .boolean value, remaining, depth =>
    if remaining.lt (ofInt 0) ∨ maxStructuredDepth < depth then overBudget remaining
    else if value then ofInt 4 else ofInt 5
  | .number text, remaining, depth =>
    if remaining.lt (ofInt 0) ∨ maxStructuredDepth < depth then overBudget remaining
    else if isFinite text then ofInt text.length else overBudget remaining
  | .string units, remaining, depth =>
    if remaining.lt (ofInt 0) ∨ maxStructuredDepth < depth then overBudget remaining
    else if remaining.lt (ofInt units.length) then overBudget remaining
    else ofInt (jsonStringBytes units)
  | .undefined, remaining, _ | .unsupported, remaining, _ | .enclosing, remaining, _ =>
    overBudget remaining
  | .array canonical entries, remaining, depth =>
    if remaining.lt (ofInt 0) ∨ maxStructuredDepth < depth then overBudget remaining
    else if maxContainerEntries < entries.length ∨ canonical = false then overBudget remaining
    else entriesSize entries remaining depth (ofInt 2)
  | .object plain fields, remaining, depth =>
    if remaining.lt (ofInt 0) ∨ maxStructuredDepth < depth then overBudget remaining
    else if plain = false then overBudget remaining
    else if maxContainerEntries < fields.length then overBudget remaining
    else fieldsSize fields remaining depth (ofInt 2)

def entriesSize : List StructuredValue → Number → Nat → Number → Number
  | [], _, _, size => size
  | entry :: entries, remaining, depth, size =>
    let size := size.add
      ((structuredSize entry (remaining.sub size) (depth + 1)).add (ofInt 1))
    if remaining.lt size then size else entriesSize entries remaining depth size

def fieldsSize : List (Name × StructuredValue) → Number → Nat → Number → Number
  | [], _, _, size => size
  | field :: fields, remaining, depth, size =>
    let size := fieldSize field remaining depth size
    if remaining.lt size then size else fieldsSize fields remaining depth size

def fieldSize : Name × StructuredValue → Number → Nat → Number → Number
  | (key, value), remaining, depth, size =>
    let size := size.add ((ofInt (jsonStringBytes key)).add (ofInt 1))
    size.add ((structuredSize value (remaining.sub size) (depth + 1)).add (ofInt 1))

end

def structuredSizeWithin (value : StructuredValue) (maximumBytes : Number) : Option Number :=
  let size := structuredSize value maximumBytes 0
  if size.le maximumBytes then some size else none

end JbChat.Embed.StructuredSize
