/- source: src/production/delivery/sync.ts, envelopes.ts
   digest: The strict parser reads exactly the texts of the grammar within its bounds. -/

import JbChat.Delivery.StrictJson
import Mathlib.Data.List.DropRight

set_option autoImplicit false

namespace JbChat.Delivery.StrictJsonValues

open Foundation.JsonGrammar StrictJson

section

variable {source rest : List Char}

theorem skipWhitespace_blank {space : List Char} (blank : Blank space) :
    skipWhitespace (space ++ rest) = skipWhitespace rest :=
  List.dropWhile_append_of_pos blank

theorem skipWhitespace_cons {c : Char} (h : isSpace c = false) :
    skipWhitespace (c :: rest) = c :: rest :=
  List.dropWhile_cons_of_neg (Bool.eq_false_iff.mp h)

theorem skipWhitespace_split (source : List Char) :
    ∃ space, Blank space ∧ source = space ++ skipWhitespace source :=
  ⟨source.takeWhile isSpace, fun _ h => List.mem_takeWhile_imp h,
    List.takeWhile_append_dropWhile.symm⟩

theorem skipWhitespace_eq_cons {c : Char} (h : skipWhitespace source = c :: rest) :
    ∃ space, Blank space ∧ source = space ++ c :: rest := by
  obtain ⟨space, blank, hsource⟩ := skipWhitespace_split source
  rw [h] at hsource
  exact ⟨space, blank, hsource⟩

/-- The part skips white space before it reads. -/
def Skips (scan : Scanner Json) : Prop :=
  ∀ source counted, scan (skipWhitespace source) counted = scan source counted

theorem skipWhitespace_idem (source : List Char) :
    skipWhitespace (skipWhitespace source) = skipWhitespace source :=
  List.dropWhile_idempotent _ source

variable {scan : Scanner Json} {fuel counted : Nat}

theorem parseValue_skips (limits : Limits) (fuel depth : Nat) :
    Skips (parseValue limits fuel depth) := by
  intro source counted
  cases fuel with
  | zero => rfl
  | succ fuel => rw [parseValue, parseValue, skipWhitespace_idem]

theorem parseElements_skips (skips : Skips scan) :
    parseElements scan fuel (skipWhitespace source) counted =
      parseElements scan fuel source counted := by
  cases fuel with
  | zero => rfl
  | succ fuel => rw [parseElements, parseElements, skips]

theorem parseMembers_skips {keys : List Name} :
    parseMembers scan fuel keys (skipWhitespace source) counted =
      parseMembers scan fuel keys source counted := by
  cases fuel with
  | zero => rfl
  | succ fuel => rw [parseMembers, parseMembers, skipWhitespace_idem]

theorem parseArray_eq (skips : Skips scan)
    (h : ∀ later, skipWhitespace source ≠ ']' :: later) :
    parseArray scan fuel source counted =
      (parseElements scan fuel source counted).map fun (values, rest, counted) =>
        (.array values, rest, counted) := by
  rw [← parseElements_skips skips]
  unfold parseArray
  split
  · exact absurd ‹_› (h _)
  · cases parseElements scan fuel (skipWhitespace source) counted <;> rfl

theorem parseObject_eq (h : ∀ later, skipWhitespace source ≠ '\x7d' :: later) :
    parseObject scan fuel source counted =
      (parseMembers scan fuel [] source counted).map fun (members, rest, counted) =>
        (.object members, rest, counted) := by
  rw [← parseMembers_skips]
  unfold parseObject
  split
  · exact absurd ‹_› (h _)
  · cases parseMembers scan fuel [] (skipWhitespace source) counted <;> rfl

end

section

variable {limits : Limits} {depth fuel counted counted' : Nat} {source rest : List Char}
  {scan : Scanner Json} {value : Json}

/-- A value of the grammar was read behind white space, within the bounds. -/
structure Read (limits : Limits) (depth : Nat) (source : List Char) (counted : Nat) (value : Json)
    (rest : List Char) (counted' : Nat) : Prop where
  text : ∃ space text, Blank space ∧ ValueText text value ∧ source = space ++ (text ++ rest)
  strict : isStrict value = true
  shallow : depth + height value ≤ limits.depth
  total : counted' = counted + nodes value
  bounded : counted' ≤ limits.nodes

def Reads (limits : Limits) (depth : Nat) (scan : Scanner Json) : Prop :=
  ∀ source counted value rest counted', scan source counted = some (value, rest, counted') →
    Read limits depth source counted value rest counted'

/-- The values of an array were read, and the bracket behind them. -/
structure ReadElements (limits : Limits) (depth : Nat) (source : List Char) (counted : Nat)
    (values : List Json) (rest : List Char) (counted' : Nat) : Prop where
  text : ∃ elements : List Element, elements ≠ [] ∧ (∀ element ∈ elements, element.Blanks) ∧
    (∀ element ∈ elements, ValueText element.chars element.value) ∧
    values = elements.map Element.value ∧
    source = separated (elements.map Element.text) ++ ']' :: rest
  strict : areStrict values = true
  shallow : depth + heightOf values ≤ limits.depth
  total : counted' = counted + nodesOf values
  bounded : counted' ≤ limits.nodes

theorem parseElements_sound (reads : Reads limits (depth + 1) scan) {values : List Json}
    (h : parseElements scan fuel source counted = some (values, rest, counted')) :
    ReadElements limits depth source counted values rest counted' := by
  induction fuel generalizing source counted values with
  | zero => cases h
  | succ fuel ih =>
    rw [parseElements] at h
    obtain ⟨⟨first, after, between⟩, hfirst, h⟩ := Option.bind_eq_some_iff.mp h
    have read : Read limits (depth + 1) source counted first after between :=
      reads _ _ _ _ _ hfirst
    obtain ⟨before, text, blankBefore, written, hsource⟩ := read.text
    have hshallow := read.shallow
    have htotal := read.total
    have hbounded := read.bounded
    dsimp only at h
    split at h
    · next closed hclosed =>
        obtain ⟨rfl, hsame⟩ := Prod.mk.inj (Option.some.inj h)
        cases hsame
        obtain ⟨space, blank, hafter⟩ := skipWhitespace_eq_cons hclosed
        refine ⟨⟨[⟨before, text, first, space⟩], List.cons_ne_nil _ _, ?_, ?_, rfl, ?_⟩, ?_, ?_,
          ?_, hbounded⟩
        · rintro _ (_ | ⟨_, ⟨⟩⟩)
          exact ⟨blankBefore, blank⟩
        · rintro _ (_ | ⟨_, ⟨⟩⟩)
          exact written
        · rw [hsource, hafter]
          simp only [List.map_cons, List.map_nil, separated, Element.text, List.append_assoc]
        · simp only [areStrict, read.strict, Bool.and_true]
        · simp only [heightOf]
          omega
        · simp only [nodesOf]
          omega
    · next opened hopened =>
        obtain ⟨⟨later, last, lastCounted⟩, hlater, h⟩ := Option.bind_eq_some_iff.mp h
        obtain ⟨rfl, hsame⟩ := Prod.mk.inj (Option.some.inj h)
        cases hsame
        obtain ⟨space, blank, hafter⟩ := skipWhitespace_eq_cons hopened
        have readLater : ReadElements limits depth opened between later last lastCounted :=
          ih hlater
        obtain ⟨elements, inhabited, blanks, each, hvalues, hopenedText⟩ := readLater.text
        have hlaterShallow := readLater.shallow
        have hlaterTotal := readLater.total
        refine ⟨⟨⟨before, text, first, space⟩ :: elements, List.cons_ne_nil _ _, ?_, ?_, ?_, ?_⟩,
          ?_, ?_, ?_, readLater.bounded⟩
        · exact List.forall_mem_cons.mpr ⟨⟨blankBefore, blank⟩, blanks⟩
        · exact List.forall_mem_cons.mpr ⟨written, each⟩
        · rw [List.map_cons, hvalues]
        · obtain ⟨second, more, rfl⟩ := List.exists_cons_of_ne_nil inhabited
          rw [hsource, hafter, hopenedText]
          simp only [List.map_cons, separated, Element.text, List.append_assoc, List.cons_append]
        · simp only [areStrict, read.strict, readLater.strict, Bool.and_true]
        · simp only [heightOf]
          omega
        · simp only [nodesOf]
          omega
    · cases h

/-- The members of an object were read under new names, and the bracket behind them. -/
structure ReadMembers (limits : Limits) (depth : Nat) (keys : List Name) (source : List Char)
    (counted : Nat) (members : List (Name × Json)) (rest : List Char) (counted' : Nat) :
    Prop where
  text : ∃ written : List Member, written ≠ [] ∧ (∀ member ∈ written, member.Blanks) ∧
    (∀ member ∈ written, StringBody member.body member.name) ∧
    (∀ member ∈ written, ValueText member.chars member.value) ∧
    members = written.map (fun member => (member.name, member.value)) ∧
    source = separated (written.map Member.text) ++ '\x7d' :: rest
  distinct : (members.map Prod.fst).Nodup
  fresh : ∀ name ∈ members.map Prod.fst, name ∉ keys
  strict : areStrictMembers members = true
  shallow : depth + heightOfMembers members ≤ limits.depth
  total : counted' = counted + nodesOfMembers members
  bounded : counted' ≤ limits.nodes

theorem key_text {key : Name} {after colon : List Char}
    (hkey : parseString (skipWhitespace source) = some (key, after))
    (hcolon : skipWhitespace after = ':' :: colon) :
    ∃ beforeName body afterName, Blank beforeName ∧ StringBody body key ∧ Blank afterName ∧
      source = beforeName ++ '"' :: (body ++ '"' :: (afterName ++ ':' :: colon)) := by
  obtain ⟨body, hstring, written⟩ := parseString_eq.mp hkey
  obtain ⟨beforeName, blankName, hsource⟩ := skipWhitespace_eq_cons hstring
  obtain ⟨afterName, blankAfter, hafter⟩ := skipWhitespace_eq_cons hcolon
  exact ⟨beforeName, body, afterName, blankName, written, blankAfter, hafter ▸ hsource⟩

theorem parseMembers_sound (reads : Reads limits (depth + 1) scan) {keys : List Name}
    {members : List (Name × Json)}
    (h : parseMembers scan fuel keys source counted = some (members, rest, counted')) :
    ReadMembers limits depth keys source counted members rest counted' := by
  induction fuel generalizing source counted members keys with
  | zero => cases h
  | succ fuel ih =>
    rw [parseMembers] at h
    obtain ⟨⟨key, afterKey⟩, hkey, h⟩ := Option.bind_eq_some_iff.mp h
    dsimp only at h
    split_ifs at h with hseen
    split at h
    swap
    · cases h
    next colon hcolon =>
    obtain ⟨⟨first, after, between⟩, hfirst, h⟩ := Option.bind_eq_some_iff.mp h
    have read : Read limits (depth + 1) colon counted first after between :=
      reads _ _ _ _ _ hfirst
    obtain ⟨beforeName, body, afterName, blankName, writtenName, blankAfterName, hsource⟩ :=
      key_text hkey hcolon
    obtain ⟨before, text, blankBefore, written, hvalueText⟩ := read.text
    have hshallow := read.shallow
    have htotal := read.total
    have hbounded := read.bounded
    dsimp only at h
    split at h
    · next closed hclosed =>
        obtain ⟨rfl, hsame⟩ := Prod.mk.inj (Option.some.inj h)
        cases hsame
        obtain ⟨space, blank, hafter⟩ := skipWhitespace_eq_cons hclosed
        refine ⟨⟨[⟨⟨before, text, first, space⟩, beforeName, body, key, afterName⟩],
          List.cons_ne_nil _ _, ?_, ?_, ?_, rfl, ?_⟩, ?_, ?_, ?_, ?_, ?_, hbounded⟩
        · rintro _ (_ | ⟨_, ⟨⟩⟩)
          exact ⟨⟨blankBefore, blank⟩, blankName, blankAfterName⟩
        · rintro _ (_ | ⟨_, ⟨⟩⟩)
          exact writtenName
        · rintro _ (_ | ⟨_, ⟨⟩⟩)
          exact written
        · rw [hsource, hvalueText, hafter]
          simp only [List.map_cons, List.map_nil, separated, Member.text, Element.text,
            List.append_assoc, List.cons_append]
        · exact List.nodup_singleton key
        · rintro _ (_ | ⟨_, ⟨⟩⟩)
          exact hseen
        · simp only [areStrictMembers, read.strict, Bool.and_true]
        · simp only [heightOfMembers]
          omega
        · simp only [nodesOfMembers]
          omega
    · next opened hopened =>
        obtain ⟨⟨later, last, lastCounted⟩, hlater, h⟩ := Option.bind_eq_some_iff.mp h
        obtain ⟨rfl, hsame⟩ := Prod.mk.inj (Option.some.inj h)
        cases hsame
        obtain ⟨space, blank, hafter⟩ := skipWhitespace_eq_cons hopened
        have readLater : ReadMembers limits depth (key :: keys) opened between later last
            lastCounted := ih hlater
        obtain ⟨members, inhabited, blanks, names, each, hmembers, hopenedText⟩ :=
          readLater.text
        have hlaterShallow := readLater.shallow
        have hlaterTotal := readLater.total
        refine ⟨⟨⟨⟨before, text, first, space⟩, beforeName, body, key, afterName⟩ :: members,
          List.cons_ne_nil _ _, ?_, ?_, ?_, ?_, ?_⟩, ?_, ?_, ?_, ?_, ?_, readLater.bounded⟩
        · exact List.forall_mem_cons.mpr
            ⟨⟨⟨blankBefore, blank⟩, blankName, blankAfterName⟩, blanks⟩
        · exact List.forall_mem_cons.mpr ⟨writtenName, names⟩
        · exact List.forall_mem_cons.mpr ⟨written, each⟩
        · rw [List.map_cons, hmembers]
        · obtain ⟨second, more, rfl⟩ := List.exists_cons_of_ne_nil inhabited
          rw [hsource, hvalueText, hafter, hopenedText]
          simp only [List.map_cons, separated, Member.text, Element.text, List.append_assoc,
            List.cons_append]
        · rw [List.map_cons, List.nodup_cons]
          exact ⟨fun hmem => readLater.fresh key hmem List.mem_cons_self, readLater.distinct⟩
        · rw [List.map_cons, List.forall_mem_cons]
          exact ⟨hseen, fun name hname hkeys =>
            readLater.fresh name hname (List.mem_cons_of_mem _ hkeys)⟩
        · simp only [areStrictMembers, read.strict, readLater.strict, Bool.and_true]
        · simp only [heightOfMembers]
          omega
        · simp only [nodesOfMembers]
          omega
    · cases h

theorem blank_append {space before : List Char} (blank : Blank space) (blankBefore : Blank before) :
    Blank (space ++ before) := by
  intro c hc
  rcases List.mem_append.mp hc with hspace | hbefore
  · exact blank c hspace
  · exact blankBefore c hbefore

theorem parseArray_sound (skips : Skips scan) (reads : Reads limits (depth + 1) scan)
    (hdepth : depth ≤ limits.depth) (hcounted : counted + 1 ≤ limits.nodes)
    (h : parseArray scan fuel source (counted + 1) = some (value, rest, counted')) :
    Read limits depth ('[' :: source) counted value rest counted' := by
  by_cases hclosed : ∃ later, skipWhitespace source = ']' :: later
  · obtain ⟨later, hafter⟩ := hclosed
    rw [parseArray, hafter] at h
    obtain ⟨rfl, hsame⟩ := Prod.mk.inj (Option.some.inj h)
    cases hsame
    obtain ⟨space, blank, rfl⟩ := skipWhitespace_eq_cons hafter
    refine ⟨⟨[], _, fun _ h => absurd h List.not_mem_nil, .emptyArray blank, ?_⟩, rfl, hdepth,
      ?_, hcounted⟩
    · simp only [List.nil_append, List.cons_append, List.append_assoc]
    · simp only [nodes, nodesOf]
  · rw [parseArray_eq skips (not_exists.mp hclosed)] at h
    obtain ⟨⟨values, last, lastCounted⟩, hvalues, hsame⟩ := Option.map_eq_some_iff.mp h
    obtain ⟨rfl, hlast⟩ := Prod.mk.inj hsame
    cases hlast
    have read := parseElements_sound reads hvalues
    obtain ⟨elements, inhabited, blanks, each, rfl, htext⟩ := read.text
    have htotal := read.total
    refine ⟨⟨[], _, fun _ h => absurd h List.not_mem_nil, .array inhabited blanks each, ?_⟩,
      read.strict, read.shallow, ?_, read.bounded⟩
    · rw [htext]
      simp only [List.nil_append, List.cons_append, List.append_assoc]
    · simp only [nodes]
      omega

theorem parseObject_sound (reads : Reads limits (depth + 1) scan) (hdepth : depth ≤ limits.depth)
    (hcounted : counted + 1 ≤ limits.nodes)
    (h : parseObject scan fuel source (counted + 1) = some (value, rest, counted')) :
    Read limits depth ('\x7b' :: source) counted value rest counted' := by
  by_cases hclosed : ∃ later, skipWhitespace source = '\x7d' :: later
  · obtain ⟨later, hafter⟩ := hclosed
    rw [parseObject, hafter] at h
    obtain ⟨rfl, hsame⟩ := Prod.mk.inj (Option.some.inj h)
    cases hsame
    obtain ⟨space, blank, rfl⟩ := skipWhitespace_eq_cons hafter
    refine ⟨⟨[], _, fun _ h => absurd h List.not_mem_nil, .emptyObject blank, ?_⟩, rfl, hdepth,
      ?_, hcounted⟩
    · simp only [List.nil_append, List.cons_append, List.append_assoc]
    · simp only [nodes, nodesOfMembers]
  · rw [parseObject_eq (not_exists.mp hclosed)] at h
    obtain ⟨⟨members, last, lastCounted⟩, hmembers, hsame⟩ := Option.map_eq_some_iff.mp h
    obtain ⟨rfl, hlast⟩ := Prod.mk.inj hsame
    cases hlast
    have read := parseMembers_sound reads hmembers
    obtain ⟨written, inhabited, blanks, names, each, rfl, htext⟩ := read.text
    have htotal := read.total
    refine ⟨⟨[], _, fun _ h => absurd h List.not_mem_nil, .object inhabited blanks names each, ?_⟩,
      ?_, read.shallow, ?_, read.bounded⟩
    · rw [htext]
      simp only [List.nil_append, List.cons_append, List.append_assoc]
    · simp only [isStrict, read.strict, Bool.and_true, decide_eq_true_eq]
      exact read.distinct
    · simp only [nodes]
      omega

theorem Read.behind
    (read : Read limits depth (skipWhitespace source) counted value rest counted') :
    Read limits depth source counted value rest counted' := by
  obtain ⟨space, blank, hsource⟩ := skipWhitespace_split source
  obtain ⟨before, text, blankBefore, written, htext⟩ := read.text
  refine ⟨⟨space ++ before, text, blank_append blank blankBefore, written, ?_⟩, read.strict,
    read.shallow, read.total, read.bounded⟩
  rw [List.append_assoc, ← htext]
  exact hsource

theorem Read.scalar {text : List Char} (written : ValueText text value)
    (strict : isStrict value = true) (hheight : height value = 0) (hnodes : nodes value = 1)
    (hdepth : depth ≤ limits.depth) (hcounted : counted + 1 ≤ limits.nodes) :
    Read limits depth (text ++ rest) counted value rest (counted + 1) := by
  refine ⟨⟨[], text, fun _ h => absurd h List.not_mem_nil, written, rfl⟩, strict, ?_, ?_, hcounted⟩
  · omega
  · omega

theorem parseValue_sound (limits : Limits) (fuel depth : Nat) :
    Reads limits depth (parseValue limits fuel depth) := by
  induction fuel generalizing depth with
  | zero =>
    intro source counted value rest counted' h
    cases h
  | succ fuel ih =>
    intro source counted value rest counted' h
    rw [parseValue] at h
    split_ifs at h with hbounds
    obtain ⟨hdepth, hcounted⟩ := not_or.mp hbounds
    rw [Nat.not_lt] at hdepth hcounted
    refine Read.behind ?_
    generalize skipWhitespace source = visible at h ⊢
    split at h
    · next after =>
        obtain ⟨⟨units, last⟩, hstring, h⟩ := Option.bind_eq_some_iff.mp h
        obtain ⟨rfl, hsame⟩ := Prod.mk.inj (Option.some.inj h)
        obtain ⟨rfl, rfl⟩ := Prod.mk.inj hsame
        obtain ⟨body, htext, written⟩ := parseString_eq.mp hstring
        have read : Read limits depth ('"' :: body ++ ['"'] ++ last) counted (.string units) last
            (counted + 1) := Read.scalar (.string written) rfl rfl rfl hdepth hcounted
        rw [htext]
        simpa only [List.cons_append, List.append_assoc, List.nil_append] using read
    · exact parseObject_sound (ih (depth + 1)) hdepth hcounted h
    · exact parseArray_sound (parseValue_skips _ _ _) (ih (depth + 1)) hdepth hcounted h
    · obtain ⟨rfl, hsame⟩ := Prod.mk.inj (Option.some.inj h)
      cases hsame
      exact Read.scalar .yes rfl rfl rfl hdepth hcounted
    · obtain ⟨rfl, hsame⟩ := Prod.mk.inj (Option.some.inj h)
      cases hsame
      exact Read.scalar .no rfl rfl rfl hdepth hcounted
    · obtain ⟨rfl, hsame⟩ := Prod.mk.inj (Option.some.inj h)
      cases hsame
      exact Read.scalar .null rfl rfl rfl hdepth hcounted
    · obtain ⟨⟨parts, last⟩, hnumber, h⟩ := Option.bind_eq_some_iff.mp h
      dsimp only at h
      split_ifs at h with hfinite
      obtain ⟨rfl, hsame⟩ := Prod.mk.inj (Option.some.inj h)
      cases hsame
      obtain ⟨text, written, rfl⟩ := matchNumber_sound hnumber
      exact Read.scalar (.number written) hfinite rfl rfl hdepth hcounted

end

section

variable {limits : Limits} {depth : Nat} {values : List Json} {members : List (Name × Json)}
  {texts : List (List Char)}

theorem areStrict_iff : areStrict values = true ↔ ∀ value ∈ values, isStrict value = true := by
  induction values with
  | nil => simp [areStrict]
  | cons value values ih => rw [areStrict, Bool.and_eq_true, ih, List.forall_mem_cons]

theorem areStrictMembers_iff :
    areStrictMembers members = true ↔ ∀ member ∈ members, isStrict member.2 = true := by
  induction members with
  | nil => simp [areStrictMembers]
  | cons member members ih =>
    rw [areStrictMembers, Bool.and_eq_true, ih, List.forall_mem_cons]

theorem height_of_mem (h : depth + heightOf values ≤ limits.depth) :
    ∀ value ∈ values, depth + 1 + height value ≤ limits.depth := by
  induction values with
  | nil => exact fun _ h => absurd h List.not_mem_nil
  | cons value values ih =>
    rw [heightOf] at h
    exact List.forall_mem_cons.mpr ⟨by omega, ih (by omega)⟩

theorem height_of_mem_members (h : depth + heightOfMembers members ≤ limits.depth) :
    ∀ member ∈ members, depth + 1 + height member.2 ≤ limits.depth := by
  induction members with
  | nil => exact fun _ h => absurd h List.not_mem_nil
  | cons member members ih =>
    rw [heightOfMembers] at h
    exact List.forall_mem_cons.mpr ⟨by omega, ih (by omega)⟩

theorem nodes_pos (value : Json) : 0 < nodes value := by
  cases value <;> simp [nodes]

theorem separated_cons (text : List Char) {rest : List (List Char)} (h : rest ≠ []) :
    separated (text :: rest) = text ++ ',' :: separated rest := by
  obtain ⟨next, later, rfl⟩ := List.exists_cons_of_ne_nil h
  rfl

theorem length_of_mem_separated {text : List Char} (h : text ∈ texts) :
    text.length ≤ (separated texts).length := by
  induction texts with
  | nil => exact absurd h List.not_mem_nil
  | cons first later ih =>
    by_cases hlater : later = []
    · subst hlater
      rw [List.mem_singleton.mp h]
      exact Nat.le_refl _
    · rw [separated_cons first hlater, List.length_append, List.length_cons]
      rcases List.mem_cons.mp h with rfl | hmem
      · omega
      · have hle := ih hmem
        omega

theorem length_le_separated (h : ∀ text ∈ texts, text ≠ []) :
    texts.length ≤ (separated texts).length := by
  induction texts with
  | nil => exact Nat.le_refl _
  | cons first later ih =>
    obtain ⟨hfirst, hlater⟩ := List.forall_mem_cons.mp h
    have hpositive := List.length_pos_iff.mpr hfirst
    by_cases hnil : later = []
    · subst hnil
      exact hpositive
    · have hle := ih hlater
      rw [separated_cons first hnil, List.length_append, List.length_cons, List.length_cons]
      omega

end

section

variable {limits : Limits} {depth fuel counted : Nat} {source rest : List Char}
  {scan : Scanner Json} {text later : List Char} {value : Json} {elements : List Element}
  {members : List Member}

theorem NumberText.head {parts : NumberParts} (written : NumberText text parts) :
    ∃ c later, text = c :: later ∧ (c = '-' ∨ isDigit c = true) := by
  obtain ⟨negative, integer, decimals, exponentNegative, power⟩ := parts
  cases written with
  | mk signed whole _ _ =>
    dsimp only at signed whole
    cases signed with
    | minus => exact ⟨'-', _, rfl, Or.inl rfl⟩
    | absent =>
      cases whole with
      | zero => exact ⟨'0', _, rfl, Or.inr (by decide)⟩
      | @digits first later leading _ =>
        refine ⟨first, _, rfl, Or.inr (decide_eq_true ⟨?_, leading.2⟩)⟩
        exact le_trans (by decide) leading.1

theorem ne_of_numberHead {c : Char} (h : c = '-' ∨ isDigit c = true) (other : Char)
    (hother : isDigit other = false ∧ other ≠ '-') : c ≠ other := by
  rintro rfl
  rcases h with h | h
  · exact hother.2 h
  · rw [hother.1] at h
    cases h

theorem ValueText.head (written : ValueText text value) :
    ∃ c later, text = c :: later ∧ isSpace c = false ∧ c ≠ ']' ∧ c ≠ '\x7d' := by
  cases written with
  | null | yes | no => exact ⟨_, _, rfl, by decide, by decide, by decide⟩
  | string | emptyArray | array | emptyObject | object =>
    exact ⟨_, _, rfl, by decide, by decide, by decide⟩
  | number written =>
    obtain ⟨c, later, htext, hc⟩ := NumberText.head written
    have differs := ne_of_numberHead hc
    refine ⟨c, later, htext, ?_, differs _ (by decide), differs _ (by decide)⟩
    unfold isSpace
    simp only [Bool.or_eq_false_iff, decide_eq_false_iff_not]
    exact ⟨⟨⟨differs _ (by decide), differs _ (by decide)⟩, differs _ (by decide)⟩,
      differs _ (by decide)⟩

/-- The part reads the value wherever it stands in front of what may follow it. -/
def Accepts (limits : Limits) (scan : Scanner Json) (text : List Char) (value : Json) : Prop :=
  ∀ space rest counted, Blank space → Ends rest → counted + nodes value ≤ limits.nodes →
    scan (space ++ (text ++ rest)) counted = some (value, rest, counted + nodes value)

theorem parseElements_complete (inhabited : elements ≠ [])
    (blanks : ∀ element ∈ elements, element.Blanks)
    (accepts : ∀ element ∈ elements, Accepts limits scan element.chars element.value)
    (hfuel : elements.length ≤ fuel)
    (hnodes : counted + nodesOf (elements.map Element.value) ≤ limits.nodes) :
    parseElements scan fuel (separated (elements.map Element.text) ++ ']' :: rest) counted =
      some (elements.map Element.value, rest,
        counted + nodesOf (elements.map Element.value)) := by
  induction elements generalizing fuel counted with
  | nil => exact absurd rfl inhabited
  | cons first later ih =>
    obtain ⟨blanksFirst, blanksLater⟩ := List.forall_mem_cons.mp blanks
    obtain ⟨acceptsFirst, acceptsLater⟩ := List.forall_mem_cons.mp accepts
    rw [List.map_cons, nodesOf] at hnodes
    cases fuel with
    | zero => exact absurd hfuel (Nat.not_succ_le_zero _)
    | succ fuel =>
      rw [parseElements]
      by_cases hlater : later = []
      · subst hlater
        have hread := acceptsFirst first.before (first.after ++ ']' :: rest) counted
          blanksFirst.before (Ends.blank blanksFirst.after (Ends.cons (by simp))) (by omega)
        have hskip : skipWhitespace (first.after ++ ']' :: rest) = ']' :: rest := by
          rw [skipWhitespace_blank blanksFirst.after, skipWhitespace_cons (by decide)]
        simp only [List.map_cons, List.map_nil, separated, Element.text, List.append_assoc,
          hread, bind, Option.bind, hskip, nodesOf, Nat.add_zero]
      · have hread := acceptsFirst first.before
          (first.after ++ ',' :: (separated (later.map Element.text) ++ ']' :: rest)) counted
          blanksFirst.before (Ends.blank blanksFirst.after (Ends.cons (by simp))) (by omega)
        have hskip : skipWhitespace
            (first.after ++ ',' :: (separated (later.map Element.text) ++ ']' :: rest)) =
            ',' :: (separated (later.map Element.text) ++ ']' :: rest) := by
          rw [skipWhitespace_blank blanksFirst.after, skipWhitespace_cons (by decide)]
        have hrest := @ih fuel (counted + nodes first.value) hlater blanksLater acceptsLater
          (Nat.le_of_succ_le_succ hfuel) (by omega)
        rw [List.map_cons, separated_cons _ (by simpa using hlater)]
        simp only [Element.text, List.append_assoc, List.cons_append, hread, bind,
          Option.bind, hskip]
        rw [hrest]
        simp only [List.map_cons, nodesOf, Nat.add_assoc]

theorem parseString_member {member : Member} (blanks : member.Blanks)
    (named : StringBody member.body member.name) (after : List Char) :
    parseString (skipWhitespace (member.text ++ after)) = some (member.name,
        member.afterName ++ ':' :: (member.toElement.text ++ after)) ∧
      skipWhitespace (member.afterName ++ ':' :: (member.toElement.text ++ after)) =
        ':' :: (member.toElement.text ++ after) := by
  constructor
  · have htext : member.text ++ after = member.beforeName ++ '"' :: (member.body ++ '"' ::
        (member.afterName ++ ':' :: (member.toElement.text ++ after))) := by
      simp only [Member.text, List.append_assoc, List.cons_append]
    rw [htext, skipWhitespace_blank blanks.beforeName, skipWhitespace_cons (by decide)]
    exact parseString_eq.mpr ⟨member.body, rfl, named⟩
  · rw [skipWhitespace_blank blanks.afterName, skipWhitespace_cons (by decide)]

theorem parseMembers_complete {keys : List Name} (inhabited : members ≠ [])
    (blanks : ∀ member ∈ members, member.Blanks)
    (names : ∀ member ∈ members, StringBody member.body member.name)
    (accepts : ∀ member ∈ members, Accepts limits scan member.chars member.value)
    (distinct : (members.map Member.name).Nodup) (fresh : ∀ member ∈ members, member.name ∉ keys)
    (hfuel : members.length ≤ fuel)
    (hnodes : counted + nodesOfMembers (members.map fun member => (member.name, member.value)) ≤
      limits.nodes) :
    parseMembers scan fuel keys (separated (members.map Member.text) ++ '\x7d' :: rest) counted =
      some (members.map (fun member => (member.name, member.value)), rest,
        counted + nodesOfMembers (members.map fun member => (member.name, member.value))) := by
  induction members generalizing fuel counted keys with
  | nil => exact absurd rfl inhabited
  | cons first later ih =>
    obtain ⟨blanksFirst, blanksLater⟩ := List.forall_mem_cons.mp blanks
    obtain ⟨namedFirst, namedLater⟩ := List.forall_mem_cons.mp names
    obtain ⟨acceptsFirst, acceptsLater⟩ := List.forall_mem_cons.mp accepts
    obtain ⟨freshFirst, freshLater⟩ := List.forall_mem_cons.mp fresh
    rw [List.map_cons, List.nodup_cons] at distinct
    rw [List.map_cons, nodesOfMembers] at hnodes
    cases fuel with
    | zero => exact absurd hfuel (Nat.not_succ_le_zero _)
    | succ fuel =>
      rw [parseMembers]
      by_cases hlater : later = []
      · subst hlater
        obtain ⟨hkey, hcolon⟩ := parseString_member blanksFirst namedFirst ('\x7d' :: rest)
        have hread := acceptsFirst first.before (first.after ++ '\x7d' :: rest) counted
          blanksFirst.before (Ends.blank blanksFirst.after (Ends.cons (by simp))) (by omega)
        have hskip : skipWhitespace (first.after ++ '\x7d' :: rest) = '\x7d' :: rest := by
          rw [skipWhitespace_blank blanksFirst.after, skipWhitespace_cons (by decide)]
        simp only [List.map_cons, List.map_nil, separated]
        simp only [hkey, bind, Option.bind, if_neg freshFirst, hcolon]
        simp only [Element.text, List.append_assoc, hread, hskip, nodesOfMembers, Nat.add_zero]
      · obtain ⟨hkey, hcolon⟩ := parseString_member blanksFirst namedFirst
          (',' :: (separated (later.map Member.text) ++ '\x7d' :: rest))
        have hread := acceptsFirst first.before
          (first.after ++ ',' :: (separated (later.map Member.text) ++ '\x7d' :: rest)) counted
          blanksFirst.before (Ends.blank blanksFirst.after (Ends.cons (by simp))) (by omega)
        have hskip : skipWhitespace
            (first.after ++ ',' :: (separated (later.map Member.text) ++ '\x7d' :: rest)) =
            ',' :: (separated (later.map Member.text) ++ '\x7d' :: rest) := by
          rw [skipWhitespace_blank blanksFirst.after, skipWhitespace_cons (by decide)]
        have unseen : ∀ member ∈ later, member.name ∉ first.name :: keys := by
          intro member hmember hseen
          rcases List.mem_cons.mp hseen with hsame | hkeys
          · exact distinct.1 (hsame ▸ List.mem_map_of_mem hmember)
          · exact freshLater member hmember hkeys
        have hrest := @ih fuel (counted + nodes first.value) (first.name :: keys) hlater
          blanksLater namedLater acceptsLater distinct.2 unseen (Nat.le_of_succ_le_succ hfuel)
          (by omega)
        rw [List.map_cons, separated_cons _ (by simpa using hlater), List.append_assoc,
          List.cons_append]
        simp only [hkey, bind, Option.bind, if_neg freshFirst, hcolon]
        simp only [Element.text, List.append_assoc, hread, hskip]
        rw [hrest]
        simp only [List.map_cons, nodesOfMembers, Nat.add_assoc]

theorem elements_open (inhabited : elements ≠ []) (blanks : ∀ element ∈ elements, element.Blanks)
    (each : ∀ element ∈ elements, ValueText element.chars element.value) {closing : List Char} :
    skipWhitespace (separated (elements.map Element.text) ++ closing) ≠ ']' :: later := by
  obtain ⟨first, others, rfl⟩ := List.exists_cons_of_ne_nil inhabited
  obtain ⟨c, more, hchars, hspace, hother, -⟩ := ValueText.head (each first List.mem_cons_self)
  have hstart : ∃ after, separated ((first :: others).map Element.text) ++ closing =
      first.before ++ c :: after := by
    cases others with
    | nil =>
      refine ⟨more ++ (first.after ++ closing), ?_⟩
      simp only [List.map_cons, List.map_nil, separated, Element.text, hchars,
        List.append_assoc, List.cons_append]
    | cons second others =>
      refine ⟨more ++ (first.after ++ ',' ::
        (separated ((second :: others).map Element.text) ++ closing)), ?_⟩
      simp only [List.map_cons, separated, Element.text, hchars, List.append_assoc,
        List.cons_append]
  obtain ⟨after, hafter⟩ := hstart
  intro hclosed
  rw [hafter, skipWhitespace_blank (blanks first List.mem_cons_self).before,
    skipWhitespace_cons hspace] at hclosed
  exact hother (List.cons.inj hclosed).1

theorem members_open (inhabited : members ≠ []) (blanks : ∀ member ∈ members, member.Blanks)
    (names : ∀ member ∈ members, StringBody member.body member.name) {closing : List Char} :
    skipWhitespace (separated (members.map Member.text) ++ closing) ≠ '\x7d' :: later := by
  obtain ⟨first, others, rfl⟩ := List.exists_cons_of_ne_nil inhabited
  have hstart : ∃ after, separated ((first :: others).map Member.text) ++ closing =
      first.text ++ after := by
    cases others with
    | nil => exact ⟨closing, rfl⟩
    | cons second others =>
      refine ⟨',' :: (separated ((second :: others).map Member.text) ++ closing), ?_⟩
      simp only [List.map_cons, separated, List.append_assoc, List.cons_append]
  obtain ⟨after, hafter⟩ := hstart
  intro hclosed
  obtain ⟨hkey, -⟩ := parseString_member (blanks first List.mem_cons_self)
    (names first List.mem_cons_self) after
  rw [hafter] at hclosed
  rw [hclosed] at hkey
  cases hkey

theorem parseArray_complete (skips : Skips scan) {elements : List Element}
    (inhabited : elements ≠ []) (blanks : ∀ element ∈ elements, element.Blanks)
    (each : ∀ element ∈ elements, ValueText element.chars element.value)
    (accepts : ∀ element ∈ elements, Accepts limits scan element.chars element.value)
    (hfuel : (separated (elements.map Element.text)).length ≤ fuel)
    (hnodes : counted + nodesOf (elements.map Element.value) ≤ limits.nodes) :
    parseArray scan fuel (separated (elements.map Element.text) ++ ']' :: rest) counted =
      some (.array (elements.map Element.value), rest,
        counted + nodesOf (elements.map Element.value)) := by
  have hcount : elements.length ≤ fuel := by
    refine le_trans (le_of_eq_of_le (List.length_map _).symm (length_le_separated ?_)) hfuel
    rintro _ htext hnil
    obtain ⟨element, hmem, rfl⟩ := List.mem_map.mp htext
    obtain ⟨c, later, hchars, -⟩ := ValueText.head (each element hmem)
    rw [Element.text, hchars] at hnil
    simp at hnil
  have hopen : ∀ later, skipWhitespace (separated (elements.map Element.text) ++ ']' :: rest) ≠
      ']' :: later := fun _ => elements_open inhabited blanks each
  rw [parseArray_eq skips hopen, parseElements_complete inhabited blanks accepts hcount hnodes]
  rfl

theorem parseObject_complete {members : List Member} (inhabited : members ≠ [])
    (blanks : ∀ member ∈ members, member.Blanks)
    (names : ∀ member ∈ members, StringBody member.body member.name)
    (accepts : ∀ member ∈ members, Accepts limits scan member.chars member.value)
    (distinct : (members.map Member.name).Nodup)
    (hfuel : (separated (members.map Member.text)).length ≤ fuel)
    (hnodes : counted + nodesOfMembers (members.map fun member => (member.name, member.value)) ≤
      limits.nodes) :
    parseObject scan fuel (separated (members.map Member.text) ++ '\x7d' :: rest) counted =
      some (.object (members.map fun member => (member.name, member.value)), rest,
        counted + nodesOfMembers (members.map fun member => (member.name, member.value))) := by
  have hcount : members.length ≤ fuel := by
    refine le_trans (le_of_eq_of_le (List.length_map _).symm (length_le_separated ?_)) hfuel
    rintro _ htext hnil
    obtain ⟨member, -, rfl⟩ := List.mem_map.mp htext
    simp [Member.text] at hnil
  have hopen : ∀ later, skipWhitespace (separated (members.map Member.text) ++ '\x7d' :: rest) ≠
      '\x7d' :: later := fun _ => members_open inhabited blanks names
  rw [parseObject_eq hopen, parseMembers_complete inhabited blanks names accepts distinct
    (fun _ _ => List.not_mem_nil) hcount hnodes]
  rfl

/-- The value that starts at the first visible character. -/
def parseVisible (limits : Limits) (fuel depth : Nat) : Scanner Json := fun visible counted =>
  match visible with
  | '"' :: rest => do
    let (units, rest) ← parseString ('"' :: rest)
    some (.string units, rest, counted)
  | '\x7b' :: rest => parseObject (parseValue limits fuel (depth + 1)) fuel rest counted
  | '[' :: rest => parseArray (parseValue limits fuel (depth + 1)) fuel rest counted
  | 't' :: 'r' :: 'u' :: 'e' :: rest => some (.boolean true, rest, counted)
  | 'f' :: 'a' :: 'l' :: 's' :: 'e' :: rest => some (.boolean false, rest, counted)
  | 'n' :: 'u' :: 'l' :: 'l' :: rest => some (.null, rest, counted)
  | source => parseNumber source counted

theorem parseValue_start {space : List Char} (blank : Blank space) (written : ValueText text value)
    (hdepth : depth ≤ limits.depth) (hcounted : counted + 1 ≤ limits.nodes) :
    parseValue limits (fuel + 1) depth (space ++ (text ++ rest)) counted =
      parseVisible limits fuel depth (text ++ rest) (counted + 1) := by
  obtain ⟨c, later, rfl, hspace, -⟩ := ValueText.head written
  have hskip : skipWhitespace (space ++ (c :: later ++ rest)) = c :: later ++ rest := by
    rw [skipWhitespace_blank blank, List.cons_append, skipWhitespace_cons hspace]
  rw [parseValue, if_neg (not_or.mpr ⟨Nat.not_lt.mpr hdepth, Nat.not_lt.mpr hcounted⟩), hskip]
  rfl

theorem parseVisible_number {c : Char} (h : c = '-' ∨ isDigit c = true) :
    parseVisible limits fuel depth (c :: later) counted = parseNumber (c :: later) counted := by
  have differs := ne_of_numberHead h
  unfold parseVisible
  split
  · exact absurd (List.cons.inj ‹_›).1 (differs _ (by decide))
  · exact absurd (List.cons.inj ‹_›).1 (differs _ (by decide))
  · exact absurd (List.cons.inj ‹_›).1 (differs _ (by decide))
  · exact absurd (List.cons.inj ‹_›).1 (differs _ (by decide))
  · exact absurd (List.cons.inj ‹_›).1 (differs _ (by decide))
  · exact absurd (List.cons.inj ‹_›).1 (differs _ (by decide))
  · rfl

theorem accepts_of_visible (written : ValueText text value) (hfuel : text.length ≤ fuel)
    (shallow : depth + height value ≤ limits.depth)
    (visible : ∀ less rest counted, text.length ≤ less + 1 → Ends rest →
      counted + nodes value ≤ limits.nodes →
      parseVisible limits less depth (text ++ rest) (counted + 1) =
        some (value, rest, counted + nodes value)) :
    Accepts limits (parseValue limits fuel depth) text value := by
  intro space rest counted blank ends hnodes
  have hpositive := nodes_pos value
  obtain ⟨less, rfl⟩ : ∃ less, fuel = less + 1 := by
    obtain ⟨head, others, htext, -⟩ := ValueText.head written
    rw [htext, List.length_cons] at hfuel
    exact ⟨fuel - 1, by omega⟩
  rw [parseValue_start blank written (le_trans (Nat.le_add_right _ _) shallow) (by omega)]
  exact visible less rest counted hfuel ends hnodes

/-- Every strict value of the grammar is accepted within the bounds. -/
theorem parseValue_complete (written : ValueText text value) (hfuel : text.length ≤ fuel)
    (strict : isStrict value = true) (shallow : depth + height value ≤ limits.depth) :
    Accepts limits (parseValue limits fuel depth) text value := by
  induction written generalizing fuel depth with
  | null => exact accepts_of_visible .null hfuel shallow fun _ _ _ _ _ _ => rfl
  | yes => exact accepts_of_visible .yes hfuel shallow fun _ _ _ _ _ _ => rfl
  | no => exact accepts_of_visible .no hfuel shallow fun _ _ _ _ _ _ => rfl
  | @number text parts written =>
    refine accepts_of_visible (.number written) hfuel shallow fun less rest counted _ ends _ => ?_
    have hfinite : parts.value.isFinite = true := strict
    obtain ⟨c, later, rfl, hc⟩ := NumberText.head written
    rw [List.cons_append, parseVisible_number hc, ← List.cons_append]
    unfold parseNumber
    rw [matchNumber_complete written ends]
    simp only [bind, Option.bind]
    rw [if_pos hfinite]
    rfl
  | @string body units written =>
    refine accepts_of_visible (.string written) hfuel shallow fun less rest counted _ _ _ => ?_
    have hstring : parseString ('"' :: (body ++ '"' :: rest)) = some (units, rest) :=
      parseString_eq.mpr ⟨body, rfl, written⟩
    simp only [List.cons_append, List.append_assoc, List.nil_append, parseVisible, hstring, bind,
      Option.bind, nodes]
  | @emptyArray inner blank =>
    refine accepts_of_visible (.emptyArray blank) hfuel shallow fun less rest counted _ _ _ => ?_
    have hskip : skipWhitespace (inner ++ ']' :: rest) = ']' :: rest := by
      rw [skipWhitespace_blank blank, skipWhitespace_cons (by decide)]
    simp only [List.cons_append, List.append_assoc, List.nil_append, parseVisible, parseArray,
      hskip, nodes, nodesOf]
  | @array elements inhabited blanks each ih =>
    refine accepts_of_visible (.array inhabited blanks each) hfuel shallow
      fun less rest counted hless _ hnodes => ?_
    rw [List.length_append, List.length_cons, List.length_singleton] at hless
    simp only [nodes] at hnodes ⊢
    have hstrict := areStrict_iff.mp strict
    have hshallow := height_of_mem shallow
    have accepts : ∀ element ∈ elements,
        Accepts limits (parseValue limits less (depth + 1)) element.chars element.value := by
      intro element hmem
      have hvalue := List.mem_map_of_mem (f := Element.value) hmem
      have hpart := length_of_mem_separated (List.mem_map_of_mem (f := Element.text) hmem)
      have hchars : element.chars.length ≤ element.text.length := by
        simp only [Element.text, List.length_append]
        omega
      exact ih element hmem (by omega) (hstrict _ hvalue) (hshallow _ hvalue)
    have hread := @parseArray_complete limits less (counted + 1) rest _ (parseValue_skips _ _ _)
      elements inhabited blanks each accepts (by omega) (by omega)
    simp only [List.cons_append, List.append_assoc, List.nil_append, parseVisible]
    rw [hread]
    congr 3
    omega
  | @emptyObject inner blank =>
    refine accepts_of_visible (.emptyObject blank) hfuel shallow fun less rest counted _ _ _ => ?_
    have hskip : skipWhitespace (inner ++ '\x7d' :: rest) = '\x7d' :: rest := by
      rw [skipWhitespace_blank blank, skipWhitespace_cons (by decide)]
    simp only [List.cons_append, List.append_assoc, List.nil_append, parseVisible, parseObject,
      hskip, nodes, nodesOfMembers]
  | @object members inhabited blanks names each ih =>
    refine accepts_of_visible (.object inhabited blanks names each) hfuel shallow
      fun less rest counted hless _ hnodes => ?_
    rw [List.length_append, List.length_cons, List.length_singleton] at hless
    simp only [nodes] at hnodes ⊢
    simp only [isStrict, Bool.and_eq_true, decide_eq_true_eq, List.map_map] at strict
    obtain ⟨distinct, hmembers⟩ := strict
    have hstrict := areStrictMembers_iff.mp hmembers
    have hshallow := height_of_mem_members shallow
    have accepts : ∀ member ∈ members,
        Accepts limits (parseValue limits less (depth + 1)) member.chars member.value := by
      intro member hmem
      have hvalue := List.mem_map_of_mem (f := fun member : Member =>
        (member.name, member.value)) hmem
      have hpart := length_of_mem_separated (List.mem_map_of_mem (f := Member.text) hmem)
      have hchars : member.chars.length ≤ member.text.length := by
        simp only [Member.text, Element.text, List.length_append, List.length_cons]
        omega
      exact ih member hmem (by omega) (hstrict _ hvalue) (hshallow _ hvalue)
    have hread := @parseObject_complete limits less (counted + 1) rest _ members inhabited blanks
      names accepts distinct (by omega) (by omega)
    simp only [List.cons_append, List.append_assoc, List.nil_append, parseVisible]
    rw [hread]
    congr 3
    omega

theorem parseStrict_eq : parseStrict limits source = some value ↔
    JsonText source value ∧ isStrict value = true ∧ height value ≤ limits.depth ∧
      nodes value ≤ limits.nodes := by
  constructor
  · intro h
    obtain ⟨⟨read, rest, total⟩, hread, h⟩ := Option.bind_eq_some_iff.mp h
    dsimp only at h
    split_ifs at h with hempty
    obtain rfl := Option.some.inj h
    have sound := parseValue_sound limits _ _ _ _ _ _ _ hread
    obtain ⟨space, text, blank, written, hsource⟩ := sound.text
    obtain ⟨after, blankAfter, hrest⟩ := skipWhitespace_split rest
    rw [List.isEmpty_iff.mp hempty, List.append_nil] at hrest
    have hshallow := sound.shallow
    have htotal := sound.total
    have hbounded := sound.bounded
    refine ⟨⟨⟨space, text, read, after⟩, ⟨blank, blankAfter⟩, written, ?_, rfl⟩, sound.strict,
      by omega, by omega⟩
    rw [hsource, hrest, Element.text, List.append_assoc]
  · rintro ⟨⟨element, blanks, written, rfl, rfl⟩, strict, hheight, hnodes⟩
    have hfuel : element.chars.length ≤ element.text.length + 1 := by
      simp only [Element.text, List.length_append]
      omega
    have ends : Ends element.after := by
      rintro c later hafter
      exact Or.inl (blanks.after c (hafter ▸ List.mem_cons_self))
    have accepted : Accepts limits (parseValue limits (element.text.length + 1) 0) element.chars
        element.value := parseValue_complete written hfuel strict (by omega)
    have hread := accepted element.before element.after 0 blanks.before ends (by omega)
    have hskip : skipWhitespace element.after = [] := by
      have hall := @skipWhitespace_blank [] element.after blanks.after
      rw [List.append_nil] at hall
      exact hall
    have htext : element.text = element.before ++ (element.chars ++ element.after) := by
      rw [Element.text, List.append_assoc]
    rw [← htext] at hread
    unfold parseStrict
    rw [hread]
    simp only [bind, Option.bind, hskip]
    rfl

end

end JbChat.Delivery.StrictJsonValues
