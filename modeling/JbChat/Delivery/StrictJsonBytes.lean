/- source: src/production/delivery/sync.ts, envelopes.ts
   digest: The two strict parsers of JSON bytes against the one value that a text writes. -/

import JbChat.Delivery.StrictJsonValues
import JbChat.Delivery.ValueObjects

set_option autoImplicit false

namespace JbChat.Delivery.StrictJsonBytes

open Foundation.JsonGrammar Foundation.HashTrace ValueObjects StrictJson StrictJsonValues

/-- `TextDecoder` with `fatal`; a byte order mark, which it would drop, is refused before. -/
def decodeUtf8 (bytes : Bytes) : Option String := String.fromUTF8? ⟨bytes.toArray⟩

def hasByteOrderMark : Bytes → Bool
  | 0xef :: 0xbb :: 0xbf :: _ => true
  | _ => false

def maxStrictJsonDepth : Nat := 20

def maxStrictJsonNodes : Nat := 50000

def maxApplicationAppendJsonBytes : Nat := 96 * 1024

/-- The bounds of the page parser. -/
def pageLimits : Limits := ⟨maxStrictJsonDepth, maxStrictJsonNodes⟩

/-- The bounds of the append parser. -/
def appendLimits : Limits := ⟨16, 256⟩

def parseStrictJsonBytes (bytes : Bytes) : Except String Json :=
  if hasByteOrderMark bytes then
    .error "Conversation page JSON must not contain a UTF-8 BOM."
  else
    match decodeUtf8 bytes with
    | none => .error "Conversation page must be valid UTF-8 JSON."
    | some source =>
      match parseStrict pageLimits source.toList with
      | none => .error "Conversation page must be strict JSON without duplicate keys."
      | some value => .ok value

def parseJsonWithoutDuplicateObjectKeys (source : String) : Except String Json :=
  match parseStrict appendLimits source.toList with
  | none => .error "Application append body must be strict JSON without duplicate keys."
  | some value => .ok value

/-- `parseApplicationAppendJson`, up to the value that its body is parsed from. -/
def decodeApplicationAppendJson (rawBody : Bytes) : Except String Json :=
  if maxApplicationAppendJsonBytes < rawBody.length then
    .error "application append JSON must be an intrinsic, fixed, owned byte array."
  else if hasByteOrderMark rawBody then
    .error "Application append JSON must not contain a UTF-8 BOM."
  else
    match decodeUtf8 rawBody with
    | none => .error "Application append JSON must be valid UTF-8."
    | some json => parseJsonWithoutDuplicateObjectKeys json

section

variable {rest rest' : List Char} {text : List Char} {value : Json} {closing : Char}

/-- Two values that begin a text alike are one value. -/
def Alone (text : List Char) (value : Json) : Prop :=
  ∀ text' value' rest rest', ValueText text' value' → Ends rest → Ends rest' →
    text ++ rest = text' ++ rest' → value = value' ∧ rest = rest'

theorem visible_eq {space space' text' : List Char} {value' : Json} (blank : Blank space)
    (blank' : Blank space') (written : ValueText text value) (written' : ValueText text' value')
    (h : space ++ (text ++ rest) = space' ++ (text' ++ rest')) : text ++ rest = text' ++ rest' := by
  have visible : ∀ {space text rest : List Char} {value : Json}, Blank space →
      ValueText text value → skipWhitespace (space ++ (text ++ rest)) = text ++ rest := by
    intro space text rest value blank written
    obtain ⟨c, later, rfl, hspace, -⟩ := ValueText.head written
    rw [skipWhitespace_blank blank, List.cons_append, skipWhitespace_cons hspace]
  rw [← visible blank written, h, visible blank' written']

theorem after_eq {space space' : List Char} {c c' : Char} (blank : Blank space)
    (blank' : Blank space') (hc : isSpace c = false) (hc' : isSpace c' = false)
    (h : space ++ c :: rest = space' ++ c' :: rest') : c = c' ∧ rest = rest' := by
  have hskip : skipWhitespace (space ++ c :: rest) = c :: rest := by
    rw [skipWhitespace_blank blank, skipWhitespace_cons hc]
  have hskip' : skipWhitespace (space' ++ c' :: rest') = c' :: rest' := by
    rw [skipWhitespace_blank blank', skipWhitespace_cons hc']
  rw [h, hskip'] at hskip
  exact List.cons.inj hskip.symm

/-- What follows the first of some parts. -/
def following (closing : Char) (texts : List (List Char)) (rest : List Char) : List Char :=
  match texts with
  | [] => closing :: rest
  | text :: texts => ',' :: (separated (text :: texts) ++ closing :: rest)

theorem separated_following (closing : Char) (text : List Char) (texts : List (List Char)) :
    separated (text :: texts) ++ closing :: rest = text ++ following closing texts rest := by
  cases texts with
  | nil => rfl
  | cons next texts => simp only [separated, following, List.append_assoc, List.cons_append]

theorem following_ends (hclosing : closing = ']' ∨ closing = '\x7d')
    (texts : List (List Char)) : ∃ c later, following closing texts rest = c :: later ∧
      isSpace c = false ∧ Ends (following closing texts rest) := by
  cases texts with
  | nil =>
    rcases hclosing with rfl | rfl <;>
      exact ⟨_, _, rfl, by decide, Ends.cons (by decide)⟩
  | cons text texts => exact ⟨_, _, rfl, by decide, Ends.cons (by decide)⟩

theorem element_unique (hclosing : closing = ']' ∨ closing = '\x7d')
    {first other : Element} (blanks : first.Blanks) (blanks' : other.Blanks)
    (alone : Alone first.chars first.value) (written : ValueText first.chars first.value)
    (written' : ValueText other.chars other.value) {texts texts' : List (List Char)}
    (h : first.text ++ following closing texts rest =
      other.text ++ following closing texts' rest') :
    first.value = other.value ∧
      following closing texts rest = following closing texts' rest' := by
  simp only [Element.text, List.append_assoc] at h
  obtain ⟨c, later, hfollow, hc, ends⟩ := @following_ends rest closing hclosing texts
  obtain ⟨c', later', hfollow', hc', ends'⟩ := @following_ends rest' closing hclosing texts'
  have hvisible := visible_eq blanks.before blanks'.before written written' h
  obtain ⟨hvalue, hafter⟩ := alone _ _ _ _ written' (Ends.blank blanks.after ends)
    (Ends.blank blanks'.after ends') hvisible
  rw [hfollow, hfollow'] at hafter
  obtain ⟨rfl, rfl⟩ := after_eq blanks.after blanks'.after hc hc' hafter
  exact ⟨hvalue, hfollow.trans hfollow'.symm⟩

theorem elements_unique {elements others : List Element} (inhabited : elements ≠ [])
    (inhabited' : others ≠ []) (blanks : ∀ element ∈ elements, element.Blanks)
    (blanks' : ∀ element ∈ others, element.Blanks)
    (alone : ∀ element ∈ elements, Alone element.chars element.value)
    (written : ∀ element ∈ elements, ValueText element.chars element.value)
    (written' : ∀ element ∈ others, ValueText element.chars element.value)
    (h : separated (elements.map Element.text) ++ ']' :: rest =
      separated (others.map Element.text) ++ ']' :: rest') :
    elements.map Element.value = others.map Element.value ∧ rest = rest' := by
  induction elements generalizing others with
  | nil => exact absurd rfl inhabited
  | cons first later ih =>
    obtain ⟨other, more, rfl⟩ := List.exists_cons_of_ne_nil inhabited'
    obtain ⟨blanksFirst, blanksLater⟩ := List.forall_mem_cons.mp blanks
    obtain ⟨blanksOther, blanksMore⟩ := List.forall_mem_cons.mp blanks'
    obtain ⟨aloneFirst, aloneLater⟩ := List.forall_mem_cons.mp alone
    obtain ⟨writtenFirst, writtenLater⟩ := List.forall_mem_cons.mp written
    obtain ⟨writtenOther, writtenMore⟩ := List.forall_mem_cons.mp written'
    rw [List.map_cons, List.map_cons, separated_following, separated_following] at h
    obtain ⟨hvalue, hfollow⟩ := element_unique (Or.inl rfl) blanksFirst blanksOther aloneFirst
      writtenFirst writtenOther h
    rw [List.map_cons, List.map_cons, hvalue]
    cases later with
    | nil =>
      cases more with
      | nil => exact ⟨rfl, (List.cons.inj hfollow).2⟩
      | cons second more => exact absurd (List.cons.inj hfollow).1 (by decide)
    | cons second later =>
      cases more with
      | nil => exact absurd (List.cons.inj hfollow).1 (by decide)
      | cons third more =>
        obtain ⟨hvalues, hrest⟩ := ih (List.cons_ne_nil _ _) (List.cons_ne_nil _ _)
          blanksLater blanksMore aloneLater writtenLater writtenMore
          (List.cons.inj hfollow).2
        exact ⟨by rw [hvalues], hrest⟩

theorem members_unique {members others : List Member} (inhabited : members ≠ [])
    (inhabited' : others ≠ []) (blanks : ∀ member ∈ members, member.Blanks)
    (blanks' : ∀ member ∈ others, member.Blanks)
    (names : ∀ member ∈ members, StringBody member.body member.name)
    (names' : ∀ member ∈ others, StringBody member.body member.name)
    (alone : ∀ member ∈ members, Alone member.chars member.value)
    (written : ∀ member ∈ members, ValueText member.chars member.value)
    (written' : ∀ member ∈ others, ValueText member.chars member.value)
    (h : separated (members.map Member.text) ++ '\x7d' :: rest =
      separated (others.map Member.text) ++ '\x7d' :: rest') :
    members.map (fun member => (member.name, member.value)) =
      others.map (fun member => (member.name, member.value)) ∧ rest = rest' := by
  induction members generalizing others with
  | nil => exact absurd rfl inhabited
  | cons first later ih =>
    obtain ⟨other, more, rfl⟩ := List.exists_cons_of_ne_nil inhabited'
    obtain ⟨blanksFirst, blanksLater⟩ := List.forall_mem_cons.mp blanks
    obtain ⟨blanksOther, blanksMore⟩ := List.forall_mem_cons.mp blanks'
    obtain ⟨namesFirst, namesLater⟩ := List.forall_mem_cons.mp names
    obtain ⟨namesOther, namesMore⟩ := List.forall_mem_cons.mp names'
    obtain ⟨aloneFirst, aloneLater⟩ := List.forall_mem_cons.mp alone
    obtain ⟨writtenFirst, writtenLater⟩ := List.forall_mem_cons.mp written
    obtain ⟨writtenOther, writtenMore⟩ := List.forall_mem_cons.mp written'
    rw [List.map_cons, List.map_cons, separated_following, separated_following] at h
    obtain ⟨hkey, -⟩ := parseString_member blanksFirst namesFirst
      (following '\x7d' (later.map Member.text) rest)
    obtain ⟨hkey', -⟩ := parseString_member blanksOther namesOther
      (following '\x7d' (more.map Member.text) rest')
    rw [← h, hkey] at hkey'
    obtain ⟨hname, hcolon⟩ := Prod.mk.inj (Option.some.inj hkey')
    obtain ⟨-, helement⟩ := after_eq blanksFirst.afterName blanksOther.afterName (by decide)
      (by decide) hcolon
    obtain ⟨hvalue, hfollow⟩ := element_unique (Or.inr rfl) blanksFirst.toBlanks
      blanksOther.toBlanks aloneFirst writtenFirst writtenOther helement
    rw [List.map_cons, List.map_cons, hname, hvalue]
    cases later with
    | nil =>
      cases more with
      | nil => exact ⟨rfl, (List.cons.inj hfollow).2⟩
      | cons second more => exact absurd (List.cons.inj hfollow).1 (by decide)
    | cons second later =>
      cases more with
      | nil => exact absurd (List.cons.inj hfollow).1 (by decide)
      | cons third more =>
        obtain ⟨hmembers, hrest⟩ := ih (List.cons_ne_nil _ _) (List.cons_ne_nil _ _)
          blanksLater blanksMore namesLater namesMore aloneLater writtenLater writtenMore
          (List.cons.inj hfollow).2
        exact ⟨by rw [hmembers], hrest⟩

/-- The kind of a value, which its first character tells. -/
def kind : Json → Nat
  | .null => 0
  | .boolean true => 1
  | .boolean false => 2
  | .string _ => 3
  | .array _ => 4
  | .object _ => 5
  | .number _ => 6

def headKind (c : Char) : Nat :=
  if c = 'n' then 0 else if c = 't' then 1 else if c = 'f' then 2 else if c = '"' then 3
  else if c = '[' then 4 else if c = '\x7b' then 5 else 6

theorem headKind_eq (written : ValueText text value) :
    ∃ c later, text = c :: later ∧ headKind c = kind value := by
  cases written with
  | null | yes | no | string | emptyArray | array | emptyObject | object =>
    exact ⟨_, _, rfl, rfl⟩
  | number written =>
    obtain ⟨c, later, rfl, hc⟩ := NumberText.head written
    have differs := ne_of_numberHead hc
    refine ⟨c, later, rfl, ?_⟩
    unfold headKind
    rw [if_neg (differs _ (by decide)), if_neg (differs _ (by decide)),
      if_neg (differs _ (by decide)), if_neg (differs _ (by decide)),
      if_neg (differs _ (by decide)), if_neg (differs _ (by decide))]
    rfl

theorem kind_unique {text' : List Char} {value' : Json} (written : ValueText text value)
    (written' : ValueText text' value')
    (h : text ++ rest = text' ++ rest') : kind value = kind value' := by
  obtain ⟨c, later, rfl, hkind⟩ := headKind_eq written
  obtain ⟨c', later', rfl, hkind'⟩ := headKind_eq written'
  rw [← hkind, ← hkind', (List.cons.inj h).1]

theorem ValueText.alone (written : ValueText text value) :
    Alone text value := by
  induction written with
  | null =>
    intro text' value' rest rest' written' _ _ h
    have hkind := kind_unique .null written' h
    cases written' with
    | null => exact ⟨rfl, List.append_cancel_left h⟩
    | yes | no | number | string | emptyArray | array | emptyObject | object => cases hkind
  | yes =>
    intro text' value' rest rest' written' _ _ h
    have hkind := kind_unique .yes written' h
    cases written' with
    | yes => exact ⟨rfl, List.append_cancel_left h⟩
    | null | no | number | string | emptyArray | array | emptyObject | object => cases hkind
  | no =>
    intro text' value' rest rest' written' _ _ h
    have hkind := kind_unique .no written' h
    cases written' with
    | no => exact ⟨rfl, List.append_cancel_left h⟩
    | null | yes | number | string | emptyArray | array | emptyObject | object => cases hkind
  | number written =>
    intro text' value' rest rest' written' ends ends' h
    have hkind := kind_unique (.number written) written' h
    cases written' with
    | number written' =>
      have hmatch := matchNumber_complete written ends
      rw [h, matchNumber_complete written' ends'] at hmatch
      obtain ⟨hparts, hrest⟩ := Prod.mk.inj (Option.some.inj hmatch)
      exact ⟨by rw [hparts], hrest.symm⟩
    | null | yes | no | string | emptyArray | array | emptyObject | object => cases hkind
  | @string body units written =>
    intro text' value' rest rest' written' _ _ h
    have hkind := kind_unique (.string written) written' h
    cases written' with
    | @string body' units' written' =>
      simp only [List.cons_append, List.append_assoc, List.nil_append] at h
      have hstring : parseString ('"' :: (body ++ '"' :: rest)) = some (units, rest) :=
        parseString_eq.mpr ⟨body, rfl, written⟩
      rw [h, parseString_eq.mpr ⟨body', rfl, written'⟩] at hstring
      obtain ⟨hunits, hrest⟩ := Prod.mk.inj (Option.some.inj hstring)
      exact ⟨by rw [hunits], hrest.symm⟩
    | null | yes | no | number | emptyArray | array | emptyObject | object => cases hkind
  | @emptyArray space blank =>
    intro text' value' rest rest' written' _ _ h
    have hkind := kind_unique (.emptyArray blank) written' h
    simp only [List.cons_append, List.append_assoc, List.nil_append] at h
    cases written' with
    | @emptyArray space' blank' =>
      simp only [List.cons_append, List.append_assoc, List.nil_append] at h
      obtain ⟨-, hrest⟩ := after_eq blank blank' (by decide) (by decide) (List.cons.inj h).2
      exact ⟨rfl, hrest⟩
    | @array elements inhabited blanks each =>
      simp only [List.cons_append, List.append_assoc, List.nil_append] at h
      have hskip : skipWhitespace (space ++ ']' :: rest) = ']' :: rest := by
        rw [skipWhitespace_blank blank, skipWhitespace_cons (by decide)]
      rw [(List.cons.inj h).2] at hskip
      exact absurd hskip (elements_open inhabited blanks each)
    | null | yes | no | number | string | emptyObject | object => cases hkind
  | @array elements inhabited blanks each ih =>
    intro text' value' rest rest' written' _ _ h
    have hkind := kind_unique (.array inhabited blanks each) written' h
    simp only [List.cons_append, List.append_assoc, List.nil_append] at h
    cases written' with
    | @emptyArray space' blank' =>
      simp only [List.cons_append, List.append_assoc, List.nil_append] at h
      have hskip : skipWhitespace (space' ++ ']' :: rest') = ']' :: rest' := by
        rw [skipWhitespace_blank blank', skipWhitespace_cons (by decide)]
      rw [← (List.cons.inj h).2] at hskip
      exact absurd hskip (elements_open inhabited blanks each)
    | @array others inhabited' blanks' each' =>
      simp only [List.cons_append, List.append_assoc, List.nil_append] at h
      obtain ⟨hvalues, hrest⟩ := elements_unique inhabited inhabited' blanks blanks' ih each
        each' (List.cons.inj h).2
      exact ⟨by rw [hvalues], hrest⟩
    | null | yes | no | number | string | emptyObject | object => cases hkind
  | @emptyObject space blank =>
    intro text' value' rest rest' written' _ _ h
    have hkind := kind_unique (.emptyObject blank) written' h
    simp only [List.cons_append, List.append_assoc, List.nil_append] at h
    cases written' with
    | @emptyObject space' blank' =>
      simp only [List.cons_append, List.append_assoc, List.nil_append] at h
      obtain ⟨-, hrest⟩ := after_eq blank blank' (by decide) (by decide) (List.cons.inj h).2
      exact ⟨rfl, hrest⟩
    | @object members inhabited blanks names each =>
      simp only [List.cons_append, List.append_assoc, List.nil_append] at h
      have hskip : skipWhitespace (space ++ '\x7d' :: rest) = '\x7d' :: rest := by
        rw [skipWhitespace_blank blank, skipWhitespace_cons (by decide)]
      rw [(List.cons.inj h).2] at hskip
      exact absurd hskip (members_open inhabited blanks names)
    | null | yes | no | number | string | emptyArray | array => cases hkind
  | @object members inhabited blanks names each ih =>
    intro text' value' rest rest' written' _ _ h
    have hkind := kind_unique (.object inhabited blanks names each) written' h
    simp only [List.cons_append, List.append_assoc, List.nil_append] at h
    cases written' with
    | @emptyObject space' blank' =>
      simp only [List.cons_append, List.append_assoc, List.nil_append] at h
      have hskip : skipWhitespace (space' ++ '\x7d' :: rest') = '\x7d' :: rest' := by
        rw [skipWhitespace_blank blank', skipWhitespace_cons (by decide)]
      rw [← (List.cons.inj h).2] at hskip
      exact absurd hskip (members_open inhabited blanks names)
    | @object others inhabited' blanks' names' each' =>
      simp only [List.cons_append, List.append_assoc, List.nil_append] at h
      obtain ⟨hmembers, hrest⟩ := members_unique inhabited inhabited' blanks blanks' names
        names' ih each each' (List.cons.inj h).2
      exact ⟨by rw [hmembers], hrest⟩
    | null | yes | no | number | string | emptyArray | array => cases hkind

theorem jsonText_unique {value' : Json} (written : JsonText text value)
    (written' : JsonText text value') : value = value' := by
  obtain ⟨element, blanks, hvalue, rfl, rfl⟩ := written
  obtain ⟨other, blanks', hvalue', htext, rfl⟩ := written'
  have ends : ∀ {space : List Char}, Blank space → Ends space :=
    fun blank c later h => Or.inl (blank c (h ▸ List.mem_cons_self))
  simp only [Element.text, List.append_assoc] at htext
  have hvisible := visible_eq blanks.before blanks'.before hvalue hvalue' htext
  exact (ValueText.alone hvalue _ _ _ _ hvalue' (ends blanks.after) (ends blanks'.after)
    hvisible).1

end

section

variable {bytes : Bytes} {value : Json} {limits : Limits}

theorem decodeUtf8_eq {text : String} : decodeUtf8 bytes = some text ↔ utf8 text = bytes := by
  unfold decodeUtf8 utf8 String.fromUTF8?
  constructor
  · intro h
    split at h
    · next valid =>
        cases h
        rfl
    · cases h
  · rintro rfl
    have hbytes : (⟨text.toUTF8.data.toList.toArray⟩ : ByteArray) = text.toUTF8 := rfl
    rw [hbytes, String.toUTF8_eq_toByteArray, dif_pos text.isValidUTF8]
    rfl

/-- The bytes are the UTF-8 encoding, without a byte order mark, of a text that writes the value;
no object of it has two members of one name, its numbers are finite, and it is within the bounds. -/
structure WritesStrictly (limits : Limits) (bytes : Bytes) (value : Json) : Prop where
  unmarked : hasByteOrderMark bytes = false
  text : ∃ text : String, utf8 text = bytes ∧ JsonText text.toList value
  strict : isStrict value = true
  shallow : height value ≤ limits.depth
  bounded : nodes value ≤ limits.nodes

theorem writesStrictly_iff : WritesStrictly limits bytes value ↔ hasByteOrderMark bytes = false ∧
    ∃ source, decodeUtf8 bytes = some source ∧ parseStrict limits source.toList = some value := by
  constructor
  · intro writes
    obtain ⟨text, htext, written⟩ := writes.text
    exact ⟨writes.unmarked, text, decodeUtf8_eq.mpr htext,
      parseStrict_eq.mpr ⟨written, writes.strict, writes.shallow, writes.bounded⟩⟩
  · rintro ⟨unmarked, source, hdecode, hparse⟩
    obtain ⟨written, strict, shallow, bounded⟩ := parseStrict_eq.mp hparse
    exact ⟨unmarked, ⟨source, decodeUtf8_eq.mp hdecode, written⟩, strict, shallow, bounded⟩

theorem decoded_eq {marked malformed unparsed : String} :
    (if hasByteOrderMark bytes then (.error marked : Except String Json)
      else
        match decodeUtf8 bytes with
        | none => .error malformed
        | some source =>
          match parseStrict limits source.toList with
          | none => .error unparsed
          | some value => .ok value) = .ok value ↔ WritesStrictly limits bytes value := by
  rw [writesStrictly_iff]
  cases hasByteOrderMark bytes with
  | true => exact ⟨fun h => (by cases h), fun h => (by cases h.1)⟩
  | false =>
    rw [if_neg Bool.false_ne_true]
    cases decodeUtf8 bytes with
    | none => exact ⟨fun h => (by cases h), fun ⟨_, _, h, _⟩ => (by cases h)⟩
    | some source =>
      dsimp only
      cases hparse : parseStrict limits source.toList with
      | none =>
        refine ⟨fun h => (by cases h), ?_⟩
        rintro ⟨-, _, ⟨⟩, h⟩
        rw [hparse] at h
        cases h
      | some read =>
        constructor
        · intro h
          cases h
          exact ⟨rfl, source, rfl, hparse⟩
        · rintro ⟨-, _, ⟨⟩, h⟩
          rw [hparse] at h
          rw [Option.some.inj h]

theorem parseStrictJsonBytes_eq :
    parseStrictJsonBytes bytes = .ok value ↔ WritesStrictly pageLimits bytes value := decoded_eq

theorem decodeApplicationAppendJson_eq : decodeApplicationAppendJson bytes = .ok value ↔
    bytes.length ≤ maxApplicationAppendJsonBytes ∧ WritesStrictly appendLimits bytes value := by
  unfold decodeApplicationAppendJson
  by_cases hlong : maxApplicationAppendJsonBytes < bytes.length
  · rw [if_pos hlong]
    exact ⟨fun h => (by cases h), fun h => absurd h.1 (Nat.not_le.mpr hlong)⟩
  · rw [if_neg hlong]
    exact decoded_eq.trans ⟨fun writes => ⟨Nat.not_lt.mp hlong, writes⟩, fun h => h.2⟩

/-- Whatever value the bytes write stays within the bounds. -/
def WithinBounds (limits : Limits) (bytes : Bytes) : Prop :=
  ∀ (text : String) (value : Json), utf8 text = bytes → JsonText text.toList value →
    height value ≤ limits.depth ∧ nodes value ≤ limits.nodes

/-- Both parsers read exactly the texts of the grammar within their bounds, a text has one value,
and within both bounds they agree. -/
theorem strict_json_exact :
    (∀ bytes value, parseStrictJsonBytes bytes = .ok value ↔
      WritesStrictly pageLimits bytes value) ∧
    (∀ bytes value, decodeApplicationAppendJson bytes = .ok value ↔
      bytes.length ≤ maxApplicationAppendJsonBytes ∧ WritesStrictly appendLimits bytes value) ∧
    (∀ text value value', JsonText text value → JsonText text value' → value = value') ∧
    ∀ bytes, bytes.length ≤ maxApplicationAppendJsonBytes → WithinBounds pageLimits bytes →
      WithinBounds appendLimits bytes →
        (parseStrictJsonBytes bytes).toOption = (decodeApplicationAppendJson bytes).toOption := by
  refine ⟨fun _ _ => parseStrictJsonBytes_eq, fun _ _ => decodeApplicationAppendJson_eq,
    fun _ _ _ => jsonText_unique, ?_⟩
  intro bytes hlength hpage happend
  have same : ∀ value, parseStrictJsonBytes bytes = .ok value ↔
      decodeApplicationAppendJson bytes = .ok value := by
    intro value
    rw [parseStrictJsonBytes_eq, decodeApplicationAppendJson_eq]
    constructor
    · rintro ⟨unmarked, ⟨text, hbytes, written⟩, strict, -, -⟩
      obtain ⟨shallow, bounded⟩ := happend text value hbytes written
      exact ⟨hlength, unmarked, ⟨text, hbytes, written⟩, strict, shallow, bounded⟩
    · rintro ⟨-, unmarked, ⟨text, hbytes, written⟩, strict, -, -⟩
      obtain ⟨shallow, bounded⟩ := hpage text value hbytes written
      exact ⟨unmarked, ⟨text, hbytes, written⟩, strict, shallow, bounded⟩
  cases hread : parseStrictJsonBytes bytes with
  | ok value => rw [(same value).mp hread]
  | error e =>
    cases hread' : decodeApplicationAppendJson bytes with
    | error e' => rfl
    | ok value =>
      rw [(same value).mpr hread'] at hread
      cases hread

/-- The bytes of `[null]`. -/
def sampleBytes : Bytes := [91, 110, 117, 108, 108, 93]

theorem strict_json_exact_sample :
    (decodeApplicationAppendJson sampleBytes).toOption = some (.array [.null]) ∧
      (parseStrictJsonBytes sampleBytes).toOption =
        (decodeApplicationAppendJson sampleBytes).toOption := by
  have hsample : utf8 "[null]" = sampleBytes := rfl
  have hparse : parseStrict pageLimits "[null]".toList = some (.array [.null]) := rfl
  have within : ∀ limits : Limits, 1 ≤ limits.depth → 2 ≤ limits.nodes →
      WithinBounds limits sampleBytes := by
    intro limits hdepth hnodes text value hbytes written
    obtain rfl := utf8_injective (hbytes.trans hsample.symm)
    obtain rfl := jsonText_unique (parseStrict_eq.mp hparse).1 written
    exact ⟨hdepth, hnodes⟩
  exact ⟨rfl, strict_json_exact.2.2.2 sampleBytes (by decide)
    (within pageLimits (by decide) (by decide)) (within appendLimits (by decide) (by decide))⟩

end

end JbChat.Delivery.StrictJsonBytes
