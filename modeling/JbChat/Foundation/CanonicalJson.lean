/- source: none
   digest: JSON texts without white space, the members of objects in the order of their names. -/

import JbChat.Foundation.JsonGrammar
import JbChat.Foundation.KeyedRows
import JbChat.Foundation.Transaction
import JbChat.Foundation.Traversal

/-!
A text is written for a string, an array or an object as it is; what is written for the other
values is a parameter. Strings and names are lists of UTF-16 code units, and half of a surrogate
pair is written as an escape, so a text consists of characters whatever the strings are.
-/

set_option autoImplicit false

namespace JbChat.Foundation.CanonicalJson

open CodeUnits JsonGrammar KeyedRows Transaction Traversal

/-- A hexadecimal digit in lower case. -/
def hexDigit (n : Nat) : Char := if n < 10 then Char.ofNat (48 + n) else Char.ofNat (87 + n)

def hexDigits (unit : Nat) : List Char :=
  [hexDigit (unit / 4096), hexDigit (unit / 256 % 16), hexDigit (unit / 16 % 16),
    hexDigit (unit % 16)]

/-- Half of a surrogate pair. -/
def IsSurrogate (unit : Nat) : Prop := 0xD800 ≤ unit ∧ unit < 0xE000

instance (unit : Nat) : Decidable (IsSurrogate unit) := inferInstanceAs (Decidable (_ ∧ _))

/-- The two halves of a pair, in their order. -/
def IsPair (high low : Nat) : Prop :=
  (0xD800 ≤ high ∧ high < 0xDC00) ∧ 0xDC00 ≤ low ∧ low < 0xE000

instance (high low : Nat) : Decidable (IsPair high low) := inferInstanceAs (Decidable (_ ∧ _))

def pairChar (high low : Nat) : Char :=
  Char.ofNat (0x10000 + (high - 0xD800) * 0x400 + (low - 0xDC00))

/-- What is written for one code unit. -/
def quoteUnit (unit : Nat) : List Char :=
  if unit = 0x22 then ['\\', '"']
  else if unit = 0x5c then ['\\', '\\']
  else if unit = 0x8 then ['\\', 'b']
  else if unit = 0x9 then ['\\', 't']
  else if unit = 0xa then ['\\', 'n']
  else if unit = 0xc then ['\\', 'f']
  else if unit = 0xd then ['\\', 'r']
  else if unit < 0x20 ∨ IsSurrogate unit then '\\' :: 'u' :: hexDigits unit
  else [Char.ofNat unit]

def quoteUnits : List Nat → List Char
  | [] => []
  | [unit] => quoteUnit unit
  | high :: low :: units =>
    if IsPair high low then pairChar high low :: quoteUnits units
    else quoteUnit high ++ quoteUnits (low :: units)

/-- A string in quotation marks. -/
def quote (units : List Nat) : List Char := '"' :: quoteUnits units ++ ['"']

/-- Code units are numbers of 16 bits. -/
def AreUnits (units : List Nat) : Prop := ∀ unit ∈ units, unit < 0x10000

section

variable {ε : Type}

def memberText (member : Name × Except ε (List Char)) : Except ε (List Char) :=
  member.2.map fun text => quote member.1 ++ ':' :: text

mutual

def canonicalText (scalar : Json → Except ε (List Char)) : Json → Except ε (List Char)
  | .string units => .ok (quote units)
  | .array values => do
    let texts ← (canonicalTexts scalar values).mapM id
    .ok ('[' :: separated texts ++ [']'])
  | .object members => do
    let texts ← (sortByKey (canonicalMembers scalar members)).mapM memberText
    .ok ('\x7b' :: separated texts ++ ['\x7d'])
  | .null => scalar .null
  | .boolean value => scalar (.boolean value)
  | .number value => scalar (.number value)

def canonicalTexts (scalar : Json → Except ε (List Char)) :
    List Json → List (Except ε (List Char))
  | [] => []
  | value :: values => canonicalText scalar value :: canonicalTexts scalar values

def canonicalMembers (scalar : Json → Except ε (List Char)) :
    List (Name × Json) → List (Name × Except ε (List Char))
  | [] => []
  | (name, value) :: members =>
    (name, canonicalText scalar value) :: canonicalMembers scalar members

end

mutual

/-- A value with the members of all its objects in the order of their names. -/
def ordered : Json → Json
  | .array values => .array (orderedValues values)
  | .object members => .object (sortByKey (orderedMembers members))
  | .string units => .string units
  | .null => .null
  | .boolean value => .boolean value
  | .number value => .number value

def orderedValues : List Json → List Json
  | [] => []
  | value :: values => ordered value :: orderedValues values

def orderedMembers : List (Name × Json) → List (Name × Json)
  | [] => []
  | (name, value) :: members => (name, ordered value) :: orderedMembers members

end

mutual

/-- Equal up to the order of the members of objects. -/
def SameValue : Json → Json → Prop
  | .array values, .array others => SameValues values others
  | .object members, .object others =>
    members.length = others.length ∧ SameMembers members others
  | .array _, _ => False
  | .object _, _ => False
  | .string units, other => other = .string units
  | .null, other => other = .null
  | .boolean value, other => other = .boolean value
  | .number value, other => other = .number value

def SameValues : List Json → List Json → Prop
  | [], others => others = []
  | value :: values, other :: others => SameValue value other ∧ SameValues values others
  | _ :: _, [] => False

def SameMembers : List (Name × Json) → List (Name × Json) → Prop
  | [], _ => True
  | (name, value) :: members, others =>
    (∃ other, (name, other) ∈ others ∧ SameValue value other) ∧ SameMembers members others

end

mutual

/-- Code units in strings and names, no name twice in an object, and only such other values. -/
def Admits (scalar : Json → Prop) : Json → Prop
  | .string units => AreUnits units
  | .array values => AdmitsAll scalar values
  | .object members => (members.map Prod.fst).Nodup ∧ AdmitsMembers scalar members
  | .null => scalar .null
  | .boolean value => scalar (.boolean value)
  | .number value => scalar (.number value)

def AdmitsAll (scalar : Json → Prop) : List Json → Prop
  | [] => True
  | value :: values => Admits scalar value ∧ AdmitsAll scalar values

def AdmitsMembers (scalar : Json → Prop) : List (Name × Json) → Prop
  | [] => True
  | (name, value) :: members =>
    (AreUnits name ∧ Admits scalar value) ∧ AdmitsMembers scalar members

end

end

theorem hexValue_hexDigit {n : Nat} (h : n < 16) : hexValue (hexDigit n) = some n := by
  interval_cases n <;> rfl

theorem fourDigits_hexDigits {unit : Nat} (h : unit < 0x10000) :
    fourDigits (hexDigit (unit / 4096)) (hexDigit (unit / 256 % 16)) (hexDigit (unit / 16 % 16))
      (hexDigit (unit % 16)) = some unit := by
  unfold fourDigits
  rw [hexValue_hexDigit (by omega), hexValue_hexDigit (by omega), hexValue_hexDigit (by omega),
    hexValue_hexDigit (by omega)]
  refine congrArg some ?_
  omega

theorem toNat_ofNat_unit {unit : Nat} (h : unit < 0x10000) (other : ¬ IsSurrogate unit) :
    (Char.ofNat unit).toNat = unit := by
  have valid : unit.isValidChar := by
    unfold IsSurrogate at other
    unfold Nat.isValidChar
    omega
  rw [Char.ofNat, dif_pos valid]
  rfl

theorem pairChar_units {high low : Nat} (pair : IsPair high low) :
    charUnits (pairChar high low) = [high, low] ∧ 0x10000 ≤ (pairChar high low).toNat := by
  obtain ⟨⟨hlow, hhigh⟩, hfirst, hlast⟩ := pair
  have valid : (0x10000 + (high - 0xD800) * 0x400 + (low - 0xDC00)).isValidChar := by
    unfold Nat.isValidChar
    omega
  have code : (pairChar high low).toNat =
      0x10000 + (high - 0xD800) * 0x400 + (low - 0xDC00) := by
    rw [pairChar, Char.ofNat, dif_pos valid]
    rfl
  generalize pairChar high low = c at code
  have hpair : 0xD800 + (c.toNat - 0x10000) / 0x400 = high ∧
      0xDC00 + (c.toNat - 0x10000) % 0x400 = low := by omega
  refine ⟨?_, by omega⟩
  rw [charUnits, if_neg (by omega), hpair.1, hpair.2]

theorem isPlain_of_toNat {c : Char} (low : 0x20 ≤ c.toNat) (quote : c.toNat ≠ 0x22)
    (back : c.toNat ≠ 0x5c) : isPlain c = true := by
  unfold isPlain
  rw [Bool.and_eq_true, Bool.and_eq_true, decide_eq_true_eq, bne_iff_ne, bne_iff_ne]
  refine ⟨⟨low, ?_⟩, ?_⟩
  · rintro rfl
    exact quote rfl
  · rintro rfl
    exact back rfl

theorem quoteUnit_body {unit : Nat} (h : unit < 0x10000) {body : List Char} {units : List Nat}
    (rest : StringBody body units) : StringBody (quoteUnit unit ++ body) (unit :: units) := by
  have listed : ∀ {c : Char} {code : Nat}, (c, code) ∈ escapes → unit = code →
      StringBody (['\\', c] ++ body) (unit :: units) := by
    rintro c code hlisted rfl
    exact .escape hlisted rest
  unfold quoteUnit
  split_ifs with hquote hback hb ht hn hf hr hescape
  · exact listed (by decide) hquote
  · exact listed (by decide) hback
  · exact listed (by decide) hb
  · exact listed (by decide) ht
  · exact listed (by decide) hn
  · exact listed (by decide) hf
  · exact listed (by decide) hr
  · exact .unicode (fourDigits_hexDigits h) rest
  · rw [not_or, not_lt] at hescape
    have code := toNat_ofNat_unit h hescape.2
    have units_eq : charUnits (Char.ofNat unit) = [unit] := by
      rw [CodeUnits.charUnits_of_lt (by omega), code]
    have plain : isPlain (Char.ofNat unit) = true :=
      isPlain_of_toNat (by omega) (by omega) (by omega)
    have written := StringBody.plain plain rest
    rw [units_eq] at written
    exact written

theorem quoteUnits_body {units : List Nat} (h : AreUnits units) :
    StringBody (quoteUnits units) units := by
  induction units using quoteUnits.induct with
  | case1 => exact .empty
  | case2 unit =>
    have written := quoteUnit_body (h unit List.mem_cons_self) StringBody.empty
    rw [List.append_nil] at written
    exact written
  | case3 high low units pair ih =>
    obtain ⟨hunits, hcode⟩ := pairChar_units pair
    have rest := ih fun unit hunit =>
      h unit (List.mem_cons_of_mem _ (List.mem_cons_of_mem _ hunit))
    have plain : isPlain (pairChar high low) = true :=
      isPlain_of_toNat (by omega) (by omega) (by omega)
    have written := StringBody.plain plain rest
    rw [hunits] at written
    rw [quoteUnits, if_pos pair]
    exact written
  | case4 high low units pair ih =>
    have rest := ih fun unit hunit => h unit (List.mem_cons_of_mem _ hunit)
    rw [quoteUnits, if_neg pair]
    exact quoteUnit_body (h high List.mem_cons_self) rest

/-- A text without white space around it, as an element. -/
def bareElement (text : List Char) (value : Json) : Element := ⟨[], text, value, []⟩

theorem blank_nil : Blank [] := fun _ h => absurd h List.not_mem_nil

theorem bareElement_blanks (text : List Char) (value : Json) : (bareElement text value).Blanks :=
  ⟨blank_nil, blank_nil⟩

theorem bareElement_text (text : List Char) (value : Json) :
    (bareElement text value).text = text := by
  unfold bareElement Element.text
  rw [List.nil_append, List.append_nil]

theorem elements_of_texts {texts : List (List Char)} {values : List Json}
    (h : List.Forall₂ ValueText texts values) :
    ∃ elements : List Element, (∀ element ∈ elements, element.Blanks) ∧
      (∀ element ∈ elements, ValueText element.chars element.value) ∧
      elements.map Element.text = texts ∧ elements.map Element.value = values := by
  induction h with
  | nil => exact ⟨[], by simp⟩
  | @cons text value texts values written rest ih =>
    obtain ⟨elements, blanks, each, htexts, hvalues⟩ := ih
    refine ⟨bareElement text value :: elements, ?_, ?_, ?_, ?_⟩
    · exact List.forall_mem_cons.mpr ⟨bareElement_blanks text value, blanks⟩
    · exact List.forall_mem_cons.mpr ⟨written, each⟩
    · rw [List.map_cons, bareElement_text, htexts]
    · rw [List.map_cons, hvalues]
      rfl

theorem array_written {texts : List (List Char)} {values : List Json}
    (h : List.Forall₂ ValueText texts values) :
    ValueText ('[' :: separated texts ++ [']']) (.array values) := by
  obtain ⟨elements, blanks, each, rfl, rfl⟩ := elements_of_texts h
  cases elements with
  | nil => exact .emptyArray blank_nil
  | cons element elements => exact .array (List.cons_ne_nil _ _) blanks each

def MemberWritten (text : List Char) (member : Name × Json) : Prop :=
  ∃ chars, AreUnits member.1 ∧ ValueText chars member.2 ∧ text = quote member.1 ++ ':' :: chars

def bareMember (name : Name) (text : List Char) (value : Json) : Member :=
  ⟨bareElement text value, [], quoteUnits name, name, []⟩

theorem bareMember_text (name : Name) (text : List Char) (value : Json) :
    (bareMember name text value).text = quote name ++ ':' :: text := by
  unfold Member.text quote
  change [] ++ '"' :: quoteUnits name ++ '"' :: [] ++ ':' :: (bareElement text value).text = _
  rw [bareElement_text]
  simp only [List.nil_append, List.append_assoc, List.cons_append]

theorem members_of_texts {texts : List (List Char)} {values : List (Name × Json)}
    (h : List.Forall₂ MemberWritten texts values) :
    ∃ members : List Member, (∀ member ∈ members, member.Blanks) ∧
      (∀ member ∈ members, StringBody member.body member.name) ∧
      (∀ member ∈ members, ValueText member.chars member.value) ∧
      members.map Member.text = texts ∧
      members.map (fun member => (member.name, member.value)) = values := by
  induction h with
  | nil => exact ⟨[], by simp⟩
  | @cons text value texts values written rest ih =>
    obtain ⟨members, blanks, names, each, htexts, hvalues⟩ := ih
    obtain ⟨chars, hunits, hchars, rfl⟩ := written
    refine ⟨bareMember value.1 chars value.2 :: members, ?_, ?_, ?_, ?_, ?_⟩
    · exact List.forall_mem_cons.mpr
        ⟨⟨bareElement_blanks chars value.2, blank_nil, blank_nil⟩, blanks⟩
    · exact List.forall_mem_cons.mpr ⟨quoteUnits_body hunits, names⟩
    · exact List.forall_mem_cons.mpr ⟨hchars, each⟩
    · rw [List.map_cons, bareMember_text, htexts]
    · rw [List.map_cons, hvalues]
      rfl

theorem object_written {texts : List (List Char)} {values : List (Name × Json)}
    (h : List.Forall₂ MemberWritten texts values) :
    ValueText ('\x7b' :: separated texts ++ ['\x7d']) (.object values) := by
  obtain ⟨members, blanks, names, each, rfl, rfl⟩ := members_of_texts h
  cases members with
  | nil => exact .emptyObject blank_nil
  | cons member members => exact .object (List.cons_ne_nil _ _) blanks names each

section

variable {ε : Type} {scalar : Json → Except ε (List Char)} {admitted : Json → Prop}

def WritesTo (result : Except ε (List Char)) (value : Json) : Prop :=
  ∃ text, result = .ok text ∧ ValueText text value

def ReadsBack (scalar : Json → Except ε (List Char)) (admitted : Json → Prop) : Prop :=
  ∀ value, admitted value → WritesTo (scalar value) value

theorem texts_of_results {results : List (Except ε (List Char))} {values : List Json}
    (h : List.Forall₂ WritesTo results values) :
    ∃ texts, results.mapM id = .ok texts ∧ List.Forall₂ ValueText texts values := by
  induction h with
  | nil => exact ⟨[], rfl, .nil⟩
  | cons written rest ih =>
    obtain ⟨text, hresult, htext⟩ := written
    obtain ⟨texts, hresults, htexts⟩ := ih
    exact ⟨text :: texts, mapM_eq_ok.mpr (.cons hresult (mapM_eq_ok.mp hresults)),
      .cons htext htexts⟩

theorem texts_of_members {results : List (Name × Except ε (List Char))}
    {values : List (Name × Json)} (h : List.Forall₂ (RowsRelated WritesTo) results values)
    (names : ∀ member ∈ values, AreUnits member.1) :
    ∃ texts, results.mapM memberText = .ok texts ∧ List.Forall₂ MemberWritten texts values := by
  induction h with
  | nil => exact ⟨[], rfl, .nil⟩
  | @cons result value results values written rest ih =>
    obtain ⟨hname, text, hresult, htext⟩ := written
    rw [List.forall_mem_cons] at names
    obtain ⟨texts, hresults, htexts⟩ := ih names.2
    refine ⟨(quote result.1 ++ ':' :: text) :: texts,
      mapM_eq_ok.mpr (.cons ?_ (mapM_eq_ok.mp hresults)), .cons ⟨text, names.1, htext, ?_⟩ htexts⟩
    · unfold memberText
      rw [hresult]
      rfl
    · rw [hname]

theorem names_of_admitted {members : List (Name × Json)} (h : AdmitsMembers admitted members) :
    ∀ member ∈ orderedMembers members, AreUnits member.1 := by
  induction members with
  | nil => exact fun _ hmem => absurd hmem List.not_mem_nil
  | cons member members ih =>
    rw [orderedMembers, List.forall_mem_cons]
    exact ⟨h.1.1, ih h.2⟩

mutual

theorem canonicalText_written (readsBack : ReadsBack scalar admitted) :
    (value : Json) → Admits admitted value → WritesTo (canonicalText scalar value) (ordered value)
  | .null, h => readsBack .null h
  | .boolean value, h => readsBack (.boolean value) h
  | .number value, h => readsBack (.number value) h
  | .string units, h => ⟨quote units, rfl, .string (quoteUnits_body h)⟩
  | .array values, h => by
    obtain ⟨texts, hresults, htexts⟩ :=
      texts_of_results (canonicalTexts_written readsBack values h)
    refine ⟨'[' :: separated texts ++ [']'], ?_, array_written htexts⟩
    unfold canonicalText
    rw [hresults]
    rfl
  | .object members, h => by
    have sorted := related_sortByKey (canonicalMembers_written readsBack members h.2)
    obtain ⟨texts, hresults, htexts⟩ := texts_of_members sorted fun member hmember =>
      names_of_admitted h.2 member (mem_sortByKey.mp hmember)
    refine ⟨'\x7b' :: separated texts ++ ['\x7d'], ?_, object_written htexts⟩
    unfold canonicalText
    rw [hresults]
    rfl

theorem canonicalTexts_written (readsBack : ReadsBack scalar admitted) :
    (values : List Json) → AdmitsAll admitted values →
      List.Forall₂ WritesTo (canonicalTexts scalar values) (orderedValues values)
  | [], _ => .nil
  | value :: values, h => .cons (canonicalText_written readsBack value h.1)
      (canonicalTexts_written readsBack values h.2)

theorem canonicalMembers_written (readsBack : ReadsBack scalar admitted) :
    (members : List (Name × Json)) → AdmitsMembers admitted members →
      List.Forall₂ (RowsRelated WritesTo) (canonicalMembers scalar members)
        (orderedMembers members)
  | [], _ => .nil
  | (_, value) :: members, h => .cons ⟨rfl, canonicalText_written readsBack value h.1.2⟩
      (canonicalMembers_written readsBack members h.2)

end

end

theorem mem_orderedMembers {members : List (Name × Json)} {name : Name} {value : Json}
    (h : (name, value) ∈ orderedMembers members) :
    ∃ other, (name, other) ∈ members ∧ ordered other = value := by
  induction members with
  | nil => exact absurd h List.not_mem_nil
  | cons member members ih =>
    rcases List.mem_cons.mp h with hhead | hlater
    · cases hhead
      exact ⟨member.2, List.mem_cons_self, rfl⟩
    · obtain ⟨other, hmem, hordered⟩ := ih hlater
      exact ⟨other, List.mem_cons_of_mem _ hmem, hordered⟩

theorem length_orderedMembers (members : List (Name × Json)) :
    (orderedMembers members).length = members.length := by
  induction members with
  | nil => rfl
  | cons member members ih => rw [orderedMembers, List.length_cons, List.length_cons, ih]

mutual

theorem same_of_ordered : (value other : Json) → ordered value = ordered other →
    SameValue value other
  | .null, other, h => by
    cases other with
    | null => rfl
    | _ => cases h
  | .boolean value, other, h => by
    cases other with
    | boolean other => exact h.symm
    | _ => cases h
  | .number value, other, h => by
    cases other with
    | number other => exact h.symm
    | _ => cases h
  | .string units, other, h => by
    cases other with
    | string other => exact h.symm
    | _ => cases h
  | .array values, other, h => by
    cases other with
    | array others => exact sameValues_of_ordered values others (Json.array.inj h)
    | _ => cases h
  | .object members, other, h => by
    cases other with
    | object others =>
      have perm : (orderedMembers members).Perm (orderedMembers others) :=
        (perm_sortByKey _).symm.trans ((Json.object.inj h) ▸ perm_sortByKey _)
      have count := perm.length_eq
      rw [length_orderedMembers, length_orderedMembers] at count
      exact ⟨count, sameMembers_of_ordered members others fun member hmem =>
        perm.mem_iff.mp hmem⟩
    | _ => cases h

theorem sameValues_of_ordered : (values others : List Json) →
    orderedValues values = orderedValues others → SameValues values others
  | [], [], _ => rfl
  | [], _ :: _, h => by cases h
  | _ :: _, [], h => by cases h
  | value :: values, other :: others, h =>
    ⟨same_of_ordered value other (List.cons.inj h).1,
      sameValues_of_ordered values others (List.cons.inj h).2⟩

theorem sameMembers_of_ordered : (members others : List (Name × Json)) →
    (∀ member ∈ orderedMembers members, member ∈ orderedMembers others) →
      SameMembers members others
  | [], _, _ => trivial
  | (name, value) :: members, others, h => by
    rw [orderedMembers, List.forall_mem_cons] at h
    obtain ⟨other, hmem, hordered⟩ := mem_orderedMembers h.1
    exact ⟨⟨other, hmem, same_of_ordered value other hordered.symm⟩,
      sameMembers_of_ordered members others h.2⟩

end

theorem names_orderedMembers (members : List (Name × Json)) :
    (orderedMembers members).map Prod.fst = members.map Prod.fst := by
  induction members with
  | nil => rfl
  | cons member members ih => rw [orderedMembers, List.map_cons, List.map_cons, ih]

theorem admitsMembers_iff {admitted : Json → Prop} {members : List (Name × Json)} :
    AdmitsMembers admitted members ↔
      ∀ member ∈ members, AreUnits member.1 ∧ Admits admitted member.2 := by
  induction members with
  | nil => exact iff_of_true trivial fun _ h => absurd h List.not_mem_nil
  | cons member members ih => rw [AdmitsMembers, List.forall_mem_cons, ih]

mutual

theorem admits_ordered {admitted : Json → Prop} :
    (value : Json) → Admits admitted value → Admits admitted (ordered value)
  | .null, h => h
  | .boolean _, h => h
  | .number _, h => h
  | .string _, h => h
  | .array values, h => admitsAll_ordered values h
  | .object members, h => by
    refine ⟨?_, admitsMembers_iff.mpr fun member hmem => ?_⟩
    · rw [((perm_sortByKey _).map Prod.fst).nodup_iff, names_orderedMembers]
      exact h.1
    · exact admitsMembers_iff.mp (admitsMembers_ordered members h.2) member
        (mem_sortByKey.mp hmem)

theorem admitsAll_ordered {admitted : Json → Prop} : (values : List Json) →
    AdmitsAll admitted values → AdmitsAll admitted (orderedValues values)
  | [], h => h
  | value :: values, h => ⟨admits_ordered value h.1, admitsAll_ordered values h.2⟩

theorem admitsMembers_ordered {admitted : Json → Prop} : (members : List (Name × Json)) →
    AdmitsMembers admitted members → AdmitsMembers admitted (orderedMembers members)
  | [], h => h
  | (_, value) :: members, h =>
    ⟨⟨h.1.1, admits_ordered value h.1.2⟩, admitsMembers_ordered members h.2⟩

end

mutual

theorem same_ordered : (value : Json) → SameValue value (ordered value)
  | .null | .boolean _ | .number _ | .string _ => rfl
  | .array values => sameValues_ordered values
  | .object members => by
    have count := (perm_sortByKey (orderedMembers members)).length_eq
    rw [length_orderedMembers] at count
    exact ⟨count.symm, sameMembers_ordered members _ fun member hmem => mem_sortByKey.mpr hmem⟩

theorem sameValues_ordered : (values : List Json) → SameValues values (orderedValues values)
  | [] => rfl
  | value :: values => ⟨same_ordered value, sameValues_ordered values⟩

theorem sameMembers_ordered : (members others : List (Name × Json)) →
    (∀ member ∈ orderedMembers members, member ∈ others) → SameMembers members others
  | [], _, _ => trivial
  | (name, value) :: members, others, h => by
    rw [orderedMembers, List.forall_mem_cons] at h
    exact ⟨⟨ordered value, h.1, same_ordered value⟩, sameMembers_ordered members others h.2⟩

end

section

variable {ε : Type} {scalar : Json → Except ε (List Char)} {admitted : Json → Prop}

theorem names_canonicalMembers (members : List (Name × Json)) :
    (canonicalMembers scalar members).map Prod.fst = members.map Prod.fst := by
  induction members with
  | nil => rfl
  | cons member members ih => rw [canonicalMembers, List.map_cons, List.map_cons, ih]

theorem mem_canonicalMembers {members : List (Name × Json)} {name : Name} {value : Json}
    (h : (name, value) ∈ members) :
    (name, canonicalText scalar value) ∈ canonicalMembers scalar members := by
  induction members with
  | nil => exact absurd h List.not_mem_nil
  | cons member members ih =>
    rcases List.mem_cons.mp h with rfl | hlater
    · exact List.mem_cons_self
    · exact List.mem_cons_of_mem _ (ih hlater)

theorem admits_of_mem {members : List (Name × Json)} (h : AdmitsMembers admitted members)
    {name : Name} {value : Json} (hmem : (name, value) ∈ members) : Admits admitted value := by
  induction members with
  | nil => exact absurd hmem List.not_mem_nil
  | cons member members ih =>
    rcases List.mem_cons.mp hmem with rfl | hlater
    · exact h.1.2
    · exact ih h.2 hlater

mutual

theorem canonicalText_congr : (value other : Json) → Admits admitted value →
    Admits admitted other → SameValue value other →
      canonicalText scalar value = canonicalText scalar other
  | .null, _, _, _, same => congrArg (canonicalText scalar) (Eq.symm same)
  | .boolean _, _, _, _, same => congrArg (canonicalText scalar) (Eq.symm same)
  | .number _, _, _, _, same => congrArg (canonicalText scalar) (Eq.symm same)
  | .string _, _, _, _, same => congrArg (canonicalText scalar) (Eq.symm same)
  | .array values, other, hvalue, hother, same => by
    cases other with
    | array others =>
      unfold canonicalText
      rw [canonicalTexts_congr values others hvalue hother same]
    | _ => exact absurd same not_false
  | .object members, other, hvalue, hother, same => by
    cases other with
    | object others =>
      have nodup : ((canonicalMembers scalar members).map Prod.fst).Nodup := by
        rw [names_canonicalMembers]
        exact hvalue.1
      have count : (canonicalMembers scalar members).length =
          (canonicalMembers scalar others).length := by
        have hmembers := congrArg List.length (@names_canonicalMembers ε scalar members)
        have hothers := congrArg List.length (@names_canonicalMembers ε scalar others)
        simp only [List.length_map] at hmembers hothers
        rw [hmembers, hothers, same.1]
      have perm := perm_of_mem nodup count
        (canonicalMembers_congr members others hvalue.2 hother.2 same.2)
      unfold canonicalText
      rw [sortByKey_congr nodup perm]
    | _ => exact absurd same not_false

theorem canonicalTexts_congr : (values others : List Json) → AdmitsAll admitted values →
    AdmitsAll admitted others → SameValues values others →
      canonicalTexts scalar values = canonicalTexts scalar others
  | [], _, _, _, same => by
    obtain rfl := same
    rfl
  | value :: values, [], _, _, same => absurd same not_false
  | value :: values, other :: others, hvalues, hothers, same => by
    rw [canonicalTexts, canonicalTexts,
      canonicalText_congr value other hvalues.1 hothers.1 same.1,
      canonicalTexts_congr values others hvalues.2 hothers.2 same.2]

theorem canonicalMembers_congr : (members others : List (Name × Json)) →
    AdmitsMembers admitted members → AdmitsMembers admitted others →
      SameMembers members others →
        ∀ row ∈ canonicalMembers scalar members, row ∈ canonicalMembers scalar others
  | [], _, _, _, _ => fun _ hrow => absurd hrow List.not_mem_nil
  | (name, value) :: members, others, hmembers, hothers, same => by
    obtain ⟨⟨other, hmem, hsame⟩, hrest⟩ := same
    rw [canonicalMembers, List.forall_mem_cons]
    refine ⟨?_, canonicalMembers_congr members others hmembers.2 hothers hrest⟩
    rw [canonicalText_congr value other hmembers.1.2 (admits_of_mem hothers hmem) hsame]
    exact mem_canonicalMembers hmem

end

/-- A result that holds whenever another does. -/
def Covers (result other : Except ε (List Char)) : Prop :=
  ∀ text, result = .ok text → other = .ok text

theorem mapM_of_covers {results others : List (Except ε (List Char))} {texts : List (List Char)}
    (h : List.Forall₂ Covers results others) (written : results.mapM id = .ok texts) :
    others.mapM id = .ok texts := by
  induction h generalizing texts with
  | nil => exact written
  | cons covers rest ih =>
    obtain _ | ⟨hresult, hresults⟩ := mapM_eq_ok.mp written
    exact mapM_eq_ok.mpr
      (.cons (covers _ hresult) (mapM_eq_ok.mp (ih (mapM_eq_ok.mpr hresults))))

theorem mapM_members_of_covers {results others : List (Name × Except ε (List Char))}
    {texts : List (List Char)} (h : List.Forall₂ (RowsRelated Covers) results others)
    (written : results.mapM memberText = .ok texts) : others.mapM memberText = .ok texts := by
  induction h generalizing texts with
  | nil => exact written
  | @cons result other results others covers rest ih =>
    obtain _ | ⟨hresult, hresults⟩ := mapM_eq_ok.mp written
    refine mapM_eq_ok.mpr (.cons ?_ (mapM_eq_ok.mp (ih (mapM_eq_ok.mpr hresults))))
    unfold memberText at hresult ⊢
    cases htext : result.2 with
    | error e =>
      rw [htext] at hresult
      cases hresult
    | ok text =>
      rw [htext] at hresult
      rw [covers.2 text htext, ← covers.1]
      exact hresult

mutual

theorem canonicalText_covers {scalar other : Json → Except ε (List Char)}
    (covers : ∀ value, Covers (scalar value) (other value)) :
    (value : Json) → Covers (canonicalText scalar value) (canonicalText other value)
  | .null => covers .null
  | .boolean value => covers (.boolean value)
  | .number value => covers (.number value)
  | .string _ => fun _ h => h
  | .array values => by
    intro text h
    unfold canonicalText at h ⊢
    obtain ⟨texts, htexts, hwhole⟩ := bind_ok.mp h
    exact bind_ok.mpr
      ⟨texts, mapM_of_covers (canonicalTexts_covers covers values) htexts, hwhole⟩
  | .object members => by
    intro text h
    unfold canonicalText at h ⊢
    obtain ⟨texts, htexts, hwhole⟩ := bind_ok.mp h
    exact bind_ok.mpr ⟨texts, mapM_members_of_covers
      (related_sortByKey (canonicalMembers_covers covers members)) htexts, hwhole⟩

theorem canonicalTexts_covers {scalar other : Json → Except ε (List Char)}
    (covers : ∀ value, Covers (scalar value) (other value)) : (values : List Json) →
      List.Forall₂ Covers (canonicalTexts scalar values) (canonicalTexts other values)
  | [] => .nil
  | value :: values => .cons (canonicalText_covers covers value)
      (canonicalTexts_covers covers values)

theorem canonicalMembers_covers {scalar other : Json → Except ε (List Char)}
    (covers : ∀ value, Covers (scalar value) (other value)) : (members : List (Name × Json)) →
      List.Forall₂ (RowsRelated Covers) (canonicalMembers scalar members)
        (canonicalMembers other members)
  | [] => .nil
  | (_, value) :: members => .cons ⟨rfl, canonicalText_covers covers value⟩
      (canonicalMembers_covers covers members)

end

theorem canonicalText_eq_iff (readsBack : ReadsBack scalar admitted)
    (unambiguous : ∀ {text : List Char} {value other : Json}, ValueText text value →
      ValueText text other → value = other)
    {value other : Json} (hvalue : Admits admitted value) (hother : Admits admitted other) :
    canonicalText scalar value = canonicalText scalar other ↔ SameValue value other := by
  refine ⟨fun same => ?_, canonicalText_congr value other hvalue hother⟩
  obtain ⟨text, htext, written⟩ := canonicalText_written readsBack value hvalue
  obtain ⟨text', htext', written'⟩ := canonicalText_written readsBack other hother
  obtain rfl : text = text' := Except.ok.inj (htext.symm.trans (same.trans htext'))
  exact same_of_ordered value other (unambiguous written written')

end

end JbChat.Foundation.CanonicalJson
