/- source: src/production/delivery/sync.ts, envelopes.ts
   digest: The parser of JSON without duplicate keys, and that it reads exactly the grammar. -/

import JbChat.Foundation.JsonGrammar
import Mathlib.Data.List.TakeWhile

/-!
The two parsers of the source are one parser with two bounds. It scans a string for its end, has
it decoded by the language, matches a number by a pattern, and counts the values it starts. The
`fail` of the source is `none`, a position in the text is what is left of it, and the fuel is the
length of the text.
-/

set_option autoImplicit false

namespace JbChat.Delivery.StrictJson

open Foundation Foundation.JsonGrammar

/-- The greatest depth, and the greatest number of values. -/
structure Limits where
  depth : Nat
  nodes : Nat

/-- A part of the parser: from what is left and the values counted so far. -/
abbrev Scanner (α : Type) := List Char → Nat → Option (α × List Char × Nat)

def skipWhitespace (source : List Char) : List Char := source.dropWhile isSpace

def isHex (c : Char) : Bool := (hexValue c).isSome

/-- The characters up to the closing quotation mark, and what follows it. -/
def scanString : List Char → Option (List Char × List Char)
  | [] => none
  | '"' :: source => some ([], source)
  | '\\' :: 'u' :: a :: b :: c :: d :: source =>
    if isHex a && isHex b && isHex c && isHex d then
      (scanString source).map fun (body, rest) => ('\\' :: 'u' :: a :: b :: c :: d :: body, rest)
    else none
  | '\\' :: escaped :: source =>
    if escaped ∈ escapes.map Prod.fst then
      (scanString source).map fun (body, rest) => ('\\' :: escaped :: body, rest)
    else none
  | c :: source =>
    if c = '\\' ∨ c.toNat < 0x20 then none
    else (scanString source).map fun (body, rest) => (c :: body, rest)

/-- `JSON.parse` of a string, given what stands between its quotation marks. -/
def decodeBody : List Char → Option (List Nat)
  | [] => some []
  | '\\' :: 'u' :: a :: b :: c :: d :: body => do
    let unit ← fourDigits a b c d
    let units ← decodeBody body
    some (unit :: units)
  | '\\' :: escaped :: body => do
    let unit ← escapes.lookup escaped
    let units ← decodeBody body
    some (unit :: units)
  | c :: body =>
    if isPlain c then (decodeBody body).map fun units => CodeUnits.charUnits c ++ units
    else none

def parseString : List Char → Option (Name × List Char)
  | '"' :: source => do
    let (body, rest) ← scanString source
    let units ← decodeBody body
    some (units, rest)
  | _ => none

def matchSign : List Char → Bool × List Char
  | '-' :: source => (true, source)
  | source => (false, source)

/-- `(?:0|[1-9]\d*)` -/
def matchInteger : List Char → Option (List Char × List Char)
  | '0' :: source => some (['0'], source)
  | c :: source =>
    if '1' ≤ c ∧ c ≤ '9' then some (c :: source.takeWhile isDigit, source.dropWhile isDigit)
    else none
  | [] => none

/-- `(?:\.\d+)?` -/
def matchFraction : List Char → List Char × List Char
  | '.' :: source =>
    if (source.takeWhile isDigit).isEmpty then ([], '.' :: source)
    else (source.takeWhile isDigit, source.dropWhile isDigit)
  | source => ([], source)

/-- `[+-]?` -/
def matchExponentSign : List Char → Bool × List Char
  | '+' :: source => (false, source)
  | '-' :: source => (true, source)
  | source => (false, source)

/-- `(?:[eE][+-]?\d+)?` -/
def matchExponent : List Char → Bool × List Char × List Char
  | c :: source =>
    if c = 'e' ∨ c = 'E' then
      let (negative, digits) := matchExponentSign source
      if (digits.takeWhile isDigit).isEmpty then (false, [], c :: source)
      else (negative, digits.takeWhile isDigit, digits.dropWhile isDigit)
    else (false, [], c :: source)
  | [] => (false, [], [])

/-- The pattern of a number at the start of what is left. -/
def matchNumber (source : List Char) : Option (NumberParts × List Char) := do
  let (negative, unsigned) := matchSign source
  let (integer, afterInteger) ← matchInteger unsigned
  let (fraction, afterFraction) := matchFraction afterInteger
  let (exponentNegative, exponent, rest) := matchExponent afterFraction
  some (⟨negative, integer, fraction, exponentNegative, exponent⟩, rest)

def parseNumber : Scanner Json := fun source nodes => do
  let (parts, rest) ← matchNumber source
  if parts.value.isFinite then some (.number parts.value, rest, nodes) else none

/-- The loop of an array, with the parser of its values. -/
def parseElements (value : Scanner Json) : Nat → Scanner (List Json)
  | 0, _, _ => none
  | fuel + 1, source, nodes => do
    let (first, rest, nodes) ← value source nodes
    match skipWhitespace rest with
    | ']' :: rest => some ([first], rest, nodes)
    | ',' :: rest => do
      let (later, rest, nodes) ← parseElements value fuel rest nodes
      some (first :: later, rest, nodes)
    | _ => none

def parseArray (value : Scanner Json) (fuel : Nat) : Scanner Json := fun source nodes =>
  match skipWhitespace source with
  | ']' :: rest => some (.array [], rest, nodes)
  | source => do
    let (values, rest, nodes) ← parseElements value fuel source nodes
    some (.array values, rest, nodes)

/-- The loop of an object, with the names it has seen. -/
def parseMembers (value : Scanner Json) : Nat → List Name → Scanner (List (Name × Json))
  | 0, _, _, _ => none
  | fuel + 1, keys, source, nodes => do
    let (key, rest) ← parseString (skipWhitespace source)
    if key ∈ keys then none
    else
      match skipWhitespace rest with
      | ':' :: rest => do
        let (first, rest, nodes) ← value rest nodes
        match skipWhitespace rest with
        | '\x7d' :: rest => some ([(key, first)], rest, nodes)
        | ',' :: rest => do
          let (later, rest, nodes) ← parseMembers value fuel (key :: keys) rest nodes
          some ((key, first) :: later, rest, nodes)
        | _ => none
      | _ => none

def parseObject (value : Scanner Json) (fuel : Nat) : Scanner Json := fun source nodes =>
  match skipWhitespace source with
  | '\x7d' :: rest => some (.object [], rest, nodes)
  | source => do
    let (members, rest, nodes) ← parseMembers value fuel [] source nodes
    some (.object members, rest, nodes)

def parseValue (limits : Limits) : Nat → Nat → Scanner Json
  | 0, _, _, _ => none
  | fuel + 1, depth, source, nodes =>
    if limits.depth < depth ∨ limits.nodes < nodes + 1 then none
    else
      match skipWhitespace source with
      | '"' :: rest => do
        let (units, rest) ← parseString ('"' :: rest)
        some (.string units, rest, nodes + 1)
      | '\x7b' :: rest => parseObject (parseValue limits fuel (depth + 1)) fuel rest (nodes + 1)
      | '[' :: rest => parseArray (parseValue limits fuel (depth + 1)) fuel rest (nodes + 1)
      | 't' :: 'r' :: 'u' :: 'e' :: rest => some (.boolean true, rest, nodes + 1)
      | 'f' :: 'a' :: 'l' :: 's' :: 'e' :: rest => some (.boolean false, rest, nodes + 1)
      | 'n' :: 'u' :: 'l' :: 'l' :: rest => some (.null, rest, nodes + 1)
      | source => parseNumber source (nodes + 1)

/-- The value of a text, which has to be used up. -/
def parseStrict (limits : Limits) (source : List Char) : Option Json := do
  let (value, rest, _) ← parseValue limits (source.length + 1) 0 source 0
  if (skipWhitespace rest).isEmpty then some value else none

section

variable {source rest body : List Char} {units : List Nat} {name : Name} {c : Char}

theorem ne_backslash_of_isPlain (h : isPlain c = true) :
    c ≠ '"' ∧ c ≠ '\\' ∧ ¬ c.toNat < 0x20 := by
  unfold isPlain at h
  rw [Bool.and_eq_true, Bool.and_eq_true, decide_eq_true_eq, bne_iff_ne, bne_iff_ne] at h
  exact ⟨h.1.2, h.2, Nat.not_lt.mpr h.1.1⟩

theorem isPlain_of_ne (hquote : c ≠ '"') (hback : c ≠ '\\')
    (hcontrol : ¬ c.toNat < 0x20) : isPlain c = true := by
  unfold isPlain
  rw [Bool.and_eq_true, Bool.and_eq_true, decide_eq_true_eq, bne_iff_ne, bne_iff_ne]
  exact ⟨⟨Nat.not_lt.mp hcontrol, hquote⟩, hback⟩

theorem fourDigits_isSome {a b d : Char} :
    (∃ unit, fourDigits a b c d = some unit) ↔
      (isHex a && isHex b && isHex c && isHex d) = true := by
  unfold fourDigits isHex
  cases hexValue a <;> cases hexValue b <;> cases hexValue c <;> cases hexValue d <;> simp

theorem decodeBody_eq : decodeBody body = some units ↔ StringBody body units := by
  constructor
  · intro h
    induction body using decodeBody.induct generalizing units with
    | case1 =>
      cases h
      exact .empty
    | case2 a b c d body ih =>
      rw [decodeBody] at h
      obtain ⟨unit, hunit, h⟩ := Option.bind_eq_some_iff.mp h
      obtain ⟨later, hlater, h⟩ := Option.bind_eq_some_iff.mp h
      cases h
      exact .unicode hunit (ih hlater)
    | case3 escaped body hshort ih =>
      rw [decodeBody] at h
      · obtain ⟨unit, hunit, h⟩ := Option.bind_eq_some_iff.mp h
        obtain ⟨later, hlater, h⟩ := Option.bind_eq_some_iff.mp h
        cases h
        obtain ⟨front, back, hlist, -⟩ := List.lookup_eq_some_iff.mp hunit
        have listed : (escaped, unit) ∈ escapes := by
          rw [hlist]
          exact List.mem_append_right _ List.mem_cons_self
        exact .escape listed (ih hlater)
      · exact hshort
    | case4 c body hunicode hescape plain ih =>
      rw [decodeBody] at h
      · rw [if_pos plain] at h
        obtain ⟨later, hlater, rfl⟩ := Option.map_eq_some_iff.mp h
        exact .plain plain (ih hlater)
      · exact hunicode
      · exact hescape
    | case5 c body hunicode hescape other =>
      rw [decodeBody] at h
      · rw [if_neg other] at h
        cases h
      · exact hunicode
      · exact hescape
  · intro h
    induction h with
    | empty => rfl
    | @plain c body units plain _ ih =>
      obtain ⟨-, hback, -⟩ := ne_backslash_of_isPlain plain
      rw [decodeBody]
      · rw [if_pos plain, ih]
        rfl
      · exact fun _ _ _ _ _ hc => absurd hc hback
      · exact fun _ _ hc => absurd hc hback
    | @escape c unit body units listed _ ih =>
      simp only [escapes, List.mem_cons, Prod.mk.injEq, List.not_mem_nil, or_false] at listed
      rcases listed with ⟨rfl, rfl⟩ | ⟨rfl, rfl⟩ | ⟨rfl, rfl⟩ | ⟨rfl, rfl⟩ | ⟨rfl, rfl⟩ |
        ⟨rfl, rfl⟩ | ⟨rfl, rfl⟩ | ⟨rfl, rfl⟩ <;>
      · rw [decodeBody, ih]
        · rfl
        · simp
    | @unicode a b c d unit body units digits _ ih =>
      rw [decodeBody, digits, ih]
      rfl

/-- The scanner stops at the first quotation mark that is not part of a string. -/
theorem scanString_eq : scanString source = some (body, rest) ↔
    source = body ++ '"' :: rest ∧ ∃ units, StringBody body units := by
  constructor
  · intro h
    induction source using scanString.induct generalizing body with
    | case1 => cases h
    | case2 source =>
      cases h
      exact ⟨rfl, [], .empty⟩
    | case3 a b c d source digits ih =>
      rw [scanString, if_pos digits] at h
      obtain ⟨⟨later, after⟩, hlater, hsame⟩ := Option.map_eq_some_iff.mp h
      cases hsame
      obtain ⟨rfl, units, hunits⟩ := ih hlater
      obtain ⟨unit, hunit⟩ := fourDigits_isSome.mpr digits
      exact ⟨rfl, unit :: units, .unicode hunit hunits⟩
    | case4 a b c d source other =>
      rw [scanString, if_neg other] at h
      cases h
    | case5 escaped source hshort listed ih =>
      rw [scanString] at h
      · rw [if_pos listed] at h
        obtain ⟨⟨later, after⟩, hlater, hsame⟩ := Option.map_eq_some_iff.mp h
        cases hsame
        obtain ⟨rfl, units, hunits⟩ := ih hlater
        obtain ⟨⟨_, unit⟩, hmem, rfl⟩ := List.mem_map.mp listed
        exact ⟨rfl, unit :: units, .escape hmem hunits⟩
      · exact hshort
    | case6 escaped source hshort other =>
      rw [scanString] at h
      · rw [if_neg other] at h
        cases h
      · exact hshort
    | case7 c source hquote hunicode hescape refused =>
      rw [scanString] at h
      · rw [if_pos refused] at h
        cases h
      · exact hquote
      · exact hunicode
      · exact hescape
    | case8 c source hquote hunicode hescape accepted ih =>
      rw [scanString] at h
      · rw [if_neg accepted] at h
        obtain ⟨⟨later, after⟩, hlater, hsame⟩ := Option.map_eq_some_iff.mp h
        cases hsame
        obtain ⟨rfl, units, hunits⟩ := ih hlater
        obtain ⟨hback, hcontrol⟩ := not_or.mp accepted
        exact ⟨rfl, _, .plain (isPlain_of_ne hquote hback hcontrol) hunits⟩
      · exact hquote
      · exact hunicode
      · exact hescape
  · rintro ⟨rfl, units, h⟩
    induction h with
    | empty => rfl
    | @plain c body units plain _ ih =>
      obtain ⟨hquote, hback, hcontrol⟩ := ne_backslash_of_isPlain plain
      rw [List.cons_append, scanString]
      · rw [if_neg (not_or.mpr ⟨hback, hcontrol⟩), ih]
        rfl
      · exact hquote
      · exact fun _ _ _ _ _ hc => absurd hc hback
      · exact fun _ _ hc => absurd hc hback
    | @escape c unit body units listed _ ih =>
      have hlisted : c ∈ escapes.map Prod.fst := List.mem_map.mpr ⟨_, listed, rfl⟩
      have hother : c ≠ 'u' := by
        rintro rfl
        exact absurd hlisted (by decide)
      rw [List.cons_append, List.cons_append, scanString]
      · rw [if_pos hlisted, ih]
        rfl
      · exact fun _ _ _ _ _ hc => absurd hc hother
    | @unicode a b c d unit body units digits _ ih =>
      simp only [List.cons_append]
      rw [scanString, if_pos (fourDigits_isSome.mp ⟨unit, digits⟩), ih]
      rfl

theorem parseString_eq : parseString source = some (name, rest) ↔
    ∃ body, source = '"' :: (body ++ '"' :: rest) ∧ StringBody body name := by
  constructor
  · intro h
    unfold parseString at h
    split at h
    · next source =>
        obtain ⟨⟨body, after⟩, hscan, h⟩ := Option.bind_eq_some_iff.mp h
        obtain ⟨units, hunits, h⟩ := Option.bind_eq_some_iff.mp h
        cases h
        obtain ⟨rfl, -⟩ := scanString_eq.mp hscan
        exact ⟨body, rfl, decodeBody_eq.mp hunits⟩
    · cases h
  · rintro ⟨body, rfl, h⟩
    have hscan : scanString (body ++ '"' :: rest) = some (body, rest) :=
      scanString_eq.mpr ⟨rfl, name, h⟩
    rw [parseString, hscan]
    simp only [bind, Option.bind, decodeBody_eq.mpr h]

end

section

variable {source rest after : List Char} {parts : NumberParts} {c : Char}
  {digits integer : List Char} {negative : Bool}

/-- What may follow a value: nothing, white space, a comma or a closing bracket. -/
def Ends (rest : List Char) : Prop :=
  ∀ c later, rest = c :: later → isSpace c = true ∨ c = ',' ∨ c = ']' ∨ c = '\x7d'

/-- No digit stands at the start. -/
def NoDigit (rest : List Char) : Prop := ∀ c later, rest = c :: later → isDigit c = false

theorem Ends.cons (h : isSpace c = true ∨ c = ',' ∨ c = ']' ∨ c = '\x7d') :
    Ends (c :: rest) := by
  rintro _ _ ⟨⟩
  exact h

theorem Ends.blank {space : List Char} (blank : Blank space) (ends : Ends rest) :
    Ends (space ++ rest) := by
  cases space with
  | nil => exact ends
  | cons c space => exact Ends.cons (Or.inl (blank c List.mem_cons_self))

theorem Ends.not_numeric (ends : Ends rest) {later : List Char} (h : rest = c :: later) :
    isDigit c = false ∧ c ≠ '.' ∧ c ≠ 'e' ∧ c ≠ 'E' := by
  rcases ends c later h with hspace | rfl | rfl | rfl
  · unfold isSpace at hspace
    simp only [Bool.or_eq_true, decide_eq_true_eq] at hspace
    rcases hspace with ((rfl | rfl) | rfl) | rfl <;> decide
  all_goals decide

theorem takeDigits_append (all : ∀ c ∈ digits, isDigit c = true)
    (stops : NoDigit rest) : (digits ++ rest).takeWhile isDigit = digits ∧
      (digits ++ rest).dropWhile isDigit = rest := by
  have hstop : rest.takeWhile isDigit = [] ∧ rest.dropWhile isDigit = rest := by
    cases rest with
    | nil => exact ⟨rfl, rfl⟩
    | cons c later =>
      have hc := Bool.eq_false_iff.mp (stops c later rfl)
      exact ⟨List.takeWhile_cons_of_neg hc, List.dropWhile_cons_of_neg hc⟩
  rw [List.takeWhile_append_of_pos all, List.dropWhile_append_of_pos all, hstop.1, hstop.2,
    List.append_nil]
  exact ⟨rfl, rfl⟩

theorem all_takeWhile_digit (source : List Char) :
    ∀ c ∈ source.takeWhile isDigit, isDigit c = true := fun _ h => List.mem_takeWhile_imp h

theorem ne_of_leading (h : '1' ≤ c ∧ c ≤ '9') : c ≠ '0' ∧ c ≠ '-' := by
  refine ⟨?_, ?_⟩ <;>
  · rintro rfl
    exact absurd h (by decide)

theorem matchSign_sound : ∃ sign, SignText sign (matchSign source).1 ∧
    source = sign ++ (matchSign source).2 := by
  unfold matchSign
  split
  · exact ⟨['-'], .minus, rfl⟩
  · exact ⟨[], .absent, rfl⟩

theorem matchInteger_sound (h : matchInteger source = some (integer, rest)) :
    IntegerText integer ∧ source = integer ++ rest := by
  unfold matchInteger at h
  split at h
  · next source =>
      cases h
      exact ⟨.zero, rfl⟩
  · next c source _ =>
      split_ifs at h with leading
      cases h
      refine ⟨.digits leading (all_takeWhile_digit source), ?_⟩
      rw [List.cons_append, List.takeWhile_append_dropWhile]
  · cases h

theorem matchFraction_sound : ∃ fraction, FractionText fraction (matchFraction source).1 ∧
    source = fraction ++ (matchFraction source).2 := by
  unfold matchFraction
  split
  · next source =>
      split_ifs with hempty
      · exact ⟨[], .absent, rfl⟩
      · refine ⟨'.' :: source.takeWhile isDigit,
          .digits (fun h => hempty (List.isEmpty_iff.mpr h)) (all_takeWhile_digit source), ?_⟩
        rw [List.cons_append, List.takeWhile_append_dropWhile]
  · exact ⟨[], .absent, rfl⟩

theorem matchExponentSign_sound : ∃ sign, ExponentSign sign (matchExponentSign source).1 ∧
    source = sign ++ (matchExponentSign source).2 := by
  unfold matchExponentSign
  split
  · exact ⟨['+'], .plus, rfl⟩
  · exact ⟨['-'], .minus, rfl⟩
  · exact ⟨[], .absent, rfl⟩

theorem matchExponent_sound : ∃ exponent,
    ExponentText exponent (matchExponent source).1 (matchExponent source).2.1 ∧
      source = exponent ++ (matchExponent source).2.2 := by
  unfold matchExponent
  split
  · next c source =>
      split_ifs with mark
      · dsimp only
        split_ifs with hempty
        · exact ⟨[], .absent, rfl⟩
        · obtain ⟨sign, signed, hsource⟩ := @matchExponentSign_sound source
          refine ⟨c :: sign ++ (matchExponentSign source).2.takeWhile isDigit,
            .digits mark signed (fun h => hempty (List.isEmpty_iff.mpr h))
              (all_takeWhile_digit _), ?_⟩
          rw [List.cons_append, List.cons_append, List.append_assoc,
            List.takeWhile_append_dropWhile, ← hsource]
      · exact ⟨[], .absent, rfl⟩
  · exact ⟨[], .absent, rfl⟩

def partsAfter (negative : Bool) (integer source : List Char) : NumberParts :=
  ⟨negative, integer, (matchFraction source).1, (matchExponent (matchFraction source).2).1,
    (matchExponent (matchFraction source).2).2.1⟩

theorem matchNumber_eq (source : List Char) : matchNumber source =
    (matchInteger (matchSign source).2).map fun (integer, after) =>
      (partsAfter (matchSign source).1 integer after,
        (matchExponent (matchFraction after).2).2.2) := by
  unfold matchNumber
  obtain ⟨negative, unsigned⟩ := matchSign source
  dsimp only
  cases matchInteger unsigned <;> rfl

theorem matchNumber_sound (h : matchNumber source = some (parts, rest)) :
    ∃ text, NumberText text parts ∧ source = text ++ rest := by
  rw [matchNumber_eq] at h
  obtain ⟨⟨integer, afterInteger⟩, hinteger, hsame⟩ := Option.map_eq_some_iff.mp h
  obtain ⟨hparts, hrest⟩ := Prod.mk.inj hsame
  obtain ⟨sign, signed, hsign⟩ := @matchSign_sound source
  obtain ⟨whole, hwhole⟩ := matchInteger_sound hinteger
  obtain ⟨fraction, fractional, hfraction⟩ := @matchFraction_sound afterInteger
  obtain ⟨exponent, scaled, hexponent⟩ := @matchExponent_sound (matchFraction afterInteger).2
  refine ⟨sign ++ integer ++ fraction ++ exponent, ?_, ?_⟩
  · rw [← hparts]
    exact @NumberText.mk sign fraction exponent (partsAfter (matchSign source).1 integer _)
      signed whole fractional scaled
  · rw [← hrest, List.append_assoc, List.append_assoc, List.append_assoc, ← hexponent,
      ← hfraction, ← hwhole, ← hsign]

theorem Ends.noDigit (ends : Ends rest) : NoDigit rest :=
  fun _ _ h => (ends.not_numeric h).1

theorem exponent_noDigit {exponent : List Char} (scaled : ExponentText exponent negative digits)
    (ends : Ends rest) :
    NoDigit (exponent ++ rest) ∧ ∀ c later, exponent ++ rest = c :: later → c ≠ '.' := by
  cases scaled with
  | absent => exact ⟨ends.noDigit, fun _ _ h => (ends.not_numeric h).2.1⟩
  | digits marks _ _ _ =>
    refine ⟨?_, ?_⟩ <;>
    · rintro _ _ ⟨⟩
      rcases marks with rfl | rfl <;> decide

theorem fraction_noDigit {fraction : List Char} (fractional : FractionText fraction digits)
    (stops : NoDigit rest) : NoDigit (fraction ++ rest) := by
  cases fractional with
  | absent => exact stops
  | digits _ _ =>
    rintro _ _ ⟨⟩
    decide

theorem matchInteger_complete (whole : IntegerText integer)
    (stops : NoDigit rest) : matchInteger (integer ++ rest) = some (integer, rest) := by
  cases whole with
  | zero => rfl
  | @digits first later leading all =>
    obtain ⟨htake, hdrop⟩ := takeDigits_append all stops
    rw [List.cons_append, matchInteger]
    · rw [if_pos leading, htake, hdrop]
    · exact (ne_of_leading leading).1

theorem matchSign_complete {sign : List Char} (signed : SignText sign negative)
    (whole : IntegerText integer) :
    matchSign (sign ++ (integer ++ rest)) = (negative, integer ++ rest) := by
  cases signed with
  | minus => rfl
  | absent =>
    cases whole with
    | zero => rfl
    | digits leading _ =>
      rw [List.nil_append, List.cons_append, matchSign]
      rintro _ ⟨⟩
      exact (ne_of_leading leading).2 rfl

theorem matchFraction_complete {fraction : List Char} (fractional : FractionText fraction digits)
    (stops : NoDigit rest) (pointless : ∀ c later, rest = c :: later → c ≠ '.') :
    matchFraction (fraction ++ rest) = (digits, rest) := by
  cases fractional with
  | absent =>
    rw [List.nil_append, matchFraction]
    rintro later rfl
    exact pointless _ _ rfl rfl
  | digits inhabited all =>
    obtain ⟨htake, hdrop⟩ := takeDigits_append all stops
    rw [List.cons_append, matchFraction, htake, hdrop,
      if_neg fun h => inhabited (List.isEmpty_iff.mp h)]

theorem matchExponentSign_complete {sign : List Char} (signed : ExponentSign sign negative)
    (inhabited : digits ≠ []) (all : ∀ c ∈ digits, isDigit c = true) :
    matchExponentSign (sign ++ (digits ++ rest)) = (negative, digits ++ rest) := by
  cases signed with
  | plus | minus => rfl
  | absent =>
    obtain ⟨first, later, rfl⟩ := List.exists_cons_of_ne_nil inhabited
    have hfirst := all first List.mem_cons_self
    rw [List.nil_append, List.cons_append, matchExponentSign]
    all_goals
      rintro _ ⟨⟩
      exact absurd hfirst (by decide)

theorem matchExponent_complete {exponent : List Char}
    (scaled : ExponentText exponent negative digits) (ends : Ends rest) :
    matchExponent (exponent ++ rest) = (negative, digits, rest) := by
  cases scaled with
  | absent =>
    cases rest with
    | nil => rfl
    | cons c later =>
      obtain ⟨-, -, hsmall, hcapital⟩ := ends.not_numeric rfl
      rw [List.nil_append, matchExponent, if_neg (not_or.mpr ⟨hsmall, hcapital⟩)]
  | @digits mark sign digits negative marks signed inhabited all =>
    obtain ⟨htake, hdrop⟩ := takeDigits_append all ends.noDigit
    rw [List.append_assoc, List.cons_append, matchExponent, if_pos marks,
      matchExponentSign_complete signed inhabited all]
    dsimp only
    rw [htake, hdrop, if_neg fun h => inhabited (List.isEmpty_iff.mp h)]

theorem matchNumber_complete {text : List Char} (written : NumberText text parts)
    (ends : Ends rest) : matchNumber (text ++ rest) = some (parts, rest) := by
  cases written with
  | @mk sign fraction exponent parts signed whole fractional scaled =>
    obtain ⟨hnoDigit, hpointless⟩ := exponent_noDigit scaled ends
    rw [List.append_assoc, List.append_assoc, List.append_assoc]
    unfold matchNumber
    rw [matchSign_complete signed whole]
    dsimp only
    rw [matchInteger_complete whole (fraction_noDigit fractional hnoDigit)]
    simp only [bind, Option.bind]
    rw [matchFraction_complete fractional hnoDigit hpointless]
    dsimp only
    rw [matchExponent_complete scaled ends]

end

end JbChat.Delivery.StrictJson
