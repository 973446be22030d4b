/- source: none
   digest: The grammar of JSON texts with the values they write. -/

import JbChat.Foundation.CodeUnits
import Mathlib.Tactic

/-!
A text of the grammar is a list of characters, a string value a list of UTF-16 code units, since
an escape may write half of a surrogate pair, and a number value a double. The parts of an array
or an object carry the white space around them.
-/

set_option autoImplicit false

namespace JbChat.Foundation.JsonGrammar

/-- A double: a significand of 53 bits times a power of two, or an infinity. -/
inductive FloatValue where
  | finite (negative : Bool) (significand : Nat) (exponent : Int)
  | infinite (negative : Bool)

def FloatValue.isFinite : FloatValue → Bool
  | .finite _ _ _ => true
  | .infinite _ => false

/-- The nearest integer to a quotient, ties to even. -/
def roundQuotient (a b : Nat) : Nat :=
  if 2 * (a % b) < b ∨ (2 * (a % b) = b ∧ a / b % 2 = 0) then a / b else a / b + 1

/-- Numerator and denominator of a quotient over a power of two. -/
def overPower (a b : Nat) (k : Int) : Nat × Nat :=
  if 0 ≤ k then (a, b * 2 ^ k.toNat) else (a * 2 ^ (-k).toNat, b)

/-- The exponent of the highest power of two that the quotient reaches. -/
def leadingExponent (a b : Nat) : Int :=
  let estimate : Int := (a.log2 : Int) - (b.log2 : Int)
  let (above, below) := overPower a b estimate
  if below ≤ above then estimate else estimate - 1

def nearestDouble (negative : Bool) (a b : Nat) : FloatValue :=
  if a = 0 then .finite negative 0 0
  else
    let exponent := max (leadingExponent a b - 52) (-1074)
    let (above, below) := overPower a b exponent
    let rounded := roundQuotient above below
    if rounded = 0 then .finite negative 0 0
    else
      let (significand, exponent) :=
        if rounded = 2 ^ 53 then (2 ^ 52, exponent + 1) else (rounded, exponent)
      if 971 < exponent then .infinite negative else .finite negative significand exponent

def isDigit (c : Char) : Bool := decide ('0' ≤ c ∧ c ≤ '9')

def digitsValue (digits : List Char) : Nat :=
  digits.foldl (fun value c => 10 * value + (c.toNat - 48)) 0

structure NumberParts where
  negative : Bool
  integer : List Char
  fraction : List Char
  exponentNegative : Bool
  exponent : List Char

/-- The double that a number stands for. -/
def NumberParts.value (parts : NumberParts) : FloatValue :=
  let digits := digitsValue (parts.integer ++ parts.fraction)
  let written : Int := digitsValue parts.exponent
  let power := (if parts.exponentNegative then -written else written) - parts.fraction.length
  if 0 ≤ power then nearestDouble parts.negative (digits * 10 ^ power.toNat) 1
  else nearestDouble parts.negative digits (10 ^ (-power).toNat)

/-- The sign, or none. -/
inductive SignText : List Char → Bool → Prop
  | absent : SignText [] false
  | minus : SignText ['-'] true

/-- A zero, or digits that do not start with one. -/
inductive IntegerText : List Char → Prop
  | zero : IntegerText ['0']
  | digits {first : Char} {rest : List Char} (leading : '1' ≤ first ∧ first ≤ '9')
      (all : ∀ c ∈ rest, isDigit c = true) : IntegerText (first :: rest)

inductive FractionText : List Char → List Char → Prop
  | absent : FractionText [] []
  | digits {digits : List Char} (inhabited : digits ≠ []) (all : ∀ c ∈ digits, isDigit c = true) :
      FractionText ('.' :: digits) digits

inductive ExponentSign : List Char → Bool → Prop
  | absent : ExponentSign [] false
  | plus : ExponentSign ['+'] false
  | minus : ExponentSign ['-'] true

inductive ExponentText : List Char → Bool → List Char → Prop
  | absent : ExponentText [] false []
  | digits {mark : Char} {sign digits : List Char} {negative : Bool}
      (marks : mark = 'e' ∨ mark = 'E') (signed : ExponentSign sign negative)
      (inhabited : digits ≠ []) (all : ∀ c ∈ digits, isDigit c = true) :
      ExponentText (mark :: sign ++ digits) negative digits

inductive NumberText : List Char → NumberParts → Prop
  | mk {sign fraction exponent : List Char} {parts : NumberParts}
      (signed : SignText sign parts.negative) (whole : IntegerText parts.integer)
      (fractional : FractionText fraction parts.fraction)
      (scaled : ExponentText exponent parts.exponentNegative parts.exponent) :
      NumberText (sign ++ parts.integer ++ fraction ++ exponent) parts

/-- The characters that follow a backslash, with what they write. -/
def escapes : List (Char × Nat) :=
  [('"', 0x22), ('\\', 0x5c), ('/', 0x2f), ('b', 0x8), ('f', 0xc), ('n', 0xa), ('r', 0xd),
    ('t', 0x9)]

def hexValue (c : Char) : Option Nat :=
  if '0' ≤ c ∧ c ≤ '9' then some (c.toNat - 48)
  else if 'a' ≤ c ∧ c ≤ 'f' then some (c.toNat - 87)
  else if 'A' ≤ c ∧ c ≤ 'F' then some (c.toNat - 55)
  else none

/-- The code unit of four hexadecimal digits. -/
def fourDigits (a b c d : Char) : Option Nat := do
  let a ← hexValue a
  let b ← hexValue b
  let c ← hexValue c
  let d ← hexValue d
  some (0x1000 * a + 0x100 * b + 0x10 * c + d)

/-- A character that stands for itself. -/
def isPlain (c : Char) : Bool := decide (0x20 ≤ c.toNat) && (c != '"') && (c != '\\')

/-- What stands between two quotation marks, with the code units it writes. -/
inductive StringBody : List Char → List Nat → Prop
  | empty : StringBody [] []
  | plain {c : Char} {body : List Char} {units : List Nat} (plain : isPlain c = true)
      (rest : StringBody body units) : StringBody (c :: body) (CodeUnits.charUnits c ++ units)
  | escape {c : Char} {unit : Nat} {body : List Char} {units : List Nat}
      (listed : (c, unit) ∈ escapes) (rest : StringBody body units) :
      StringBody ('\\' :: c :: body) (unit :: units)
  | unicode {a b c d : Char} {unit : Nat} {body : List Char} {units : List Nat}
      (digits : fourDigits a b c d = some unit) (rest : StringBody body units) :
      StringBody ('\\' :: 'u' :: a :: b :: c :: d :: body) (unit :: units)

abbrev Name := List Nat

inductive Json where
  | null
  | boolean (value : Bool)
  | number (value : FloatValue)
  | string (units : List Nat)
  | array (values : List Json)
  | object (members : List (Name × Json))

def isSpace (c : Char) : Bool := c = ' ' || c = '\n' || c = '\r' || c = '\t'

def Blank (chars : List Char) : Prop := ∀ c ∈ chars, isSpace c = true

/-- A value as it stands in a text, with the white space around it. -/
structure Element where
  before : List Char
  chars : List Char
  value : Json
  after : List Char

def Element.text (element : Element) : List Char :=
  element.before ++ element.chars ++ element.after

structure Element.Blanks (element : Element) : Prop where
  before : Blank element.before
  after : Blank element.after

/-- A member as it stands in a text, with the white space around its name and its value. -/
structure Member extends Element where
  beforeName : List Char
  body : List Char
  name : Name
  afterName : List Char

def Member.text (member : Member) : List Char :=
  member.beforeName ++ '"' :: member.body ++ '"' :: member.afterName ++ ':' ::
    member.toElement.text

structure Member.Blanks (member : Member) : Prop extends Element.Blanks member.toElement where
  beforeName : Blank member.beforeName
  afterName : Blank member.afterName

/-- Texts with commas between them. -/
def separated : List (List Char) → List Char
  | [] => []
  | [text] => text
  | text :: texts => text ++ ',' :: separated texts

/-- A value without white space around it. -/
inductive ValueText : List Char → Json → Prop
  | null : ValueText ['n', 'u', 'l', 'l'] .null
  | yes : ValueText ['t', 'r', 'u', 'e'] (.boolean true)
  | no : ValueText ['f', 'a', 'l', 's', 'e'] (.boolean false)
  | number {text : List Char} {parts : NumberParts} (written : NumberText text parts) :
      ValueText text (.number parts.value)
  | string {body : List Char} {units : List Nat} (written : StringBody body units) :
      ValueText ('"' :: body ++ ['"']) (.string units)
  | emptyArray {space : List Char} (blank : Blank space) :
      ValueText ('[' :: space ++ [']']) (.array [])
  | array {elements : List Element} (inhabited : elements ≠ [])
      (blanks : ∀ element ∈ elements, element.Blanks)
      (each : ∀ element ∈ elements, ValueText element.chars element.value) :
      ValueText ('[' :: separated (elements.map Element.text) ++ [']'])
        (.array (elements.map Element.value))
  | emptyObject {space : List Char} (blank : Blank space) :
      ValueText ('\x7b' :: space ++ ['\x7d']) (.object [])
  | object {members : List Member} (inhabited : members ≠ [])
      (blanks : ∀ member ∈ members, member.Blanks)
      (names : ∀ member ∈ members, StringBody member.body member.name)
      (each : ∀ member ∈ members, ValueText member.chars member.value) :
      ValueText ('\x7b' :: separated (members.map Member.text) ++ ['\x7d'])
        (.object (members.map fun member => (member.name, member.value)))

/-- A JSON text: a value with white space around it. -/
def JsonText (text : List Char) (value : Json) : Prop :=
  ∃ element : Element, element.Blanks ∧ ValueText element.chars element.value ∧
    text = element.text ∧ value = element.value

mutual

/-- The number of values in a value, with itself. -/
def nodes : Json → Nat
  | .array values => nodesOf values + 1
  | .object members => nodesOfMembers members + 1
  | _ => 1

def nodesOf : List Json → Nat
  | [] => 0
  | value :: values => nodes value + nodesOf values

def nodesOfMembers : List (Name × Json) → Nat
  | [] => 0
  | (_, value) :: members => nodes value + nodesOfMembers members

end

mutual

/-- The longest chain of values that contain one another below a value. -/
def height : Json → Nat
  | .array values => heightOf values
  | .object members => heightOfMembers members
  | _ => 0

def heightOf : List Json → Nat
  | [] => 0
  | value :: values => max (height value + 1) (heightOf values)

def heightOfMembers : List (Name × Json) → Nat
  | [] => 0
  | (_, value) :: members => max (height value + 1) (heightOfMembers members)

end

mutual

/-- No object has two members of one name, and no number is infinite. -/
def isStrict : Json → Bool
  | .number value => value.isFinite
  | .array values => areStrict values
  | .object members => decide (members.map Prod.fst).Nodup && areStrictMembers members
  | _ => true

def areStrict : List Json → Bool
  | [] => true
  | value :: values => isStrict value && areStrict values

def areStrictMembers : List (Name × Json) → Bool
  | [] => true
  | (_, value) :: members => isStrict value && areStrictMembers members

end

end JbChat.Foundation.JsonGrammar
