/- source: src/embed/runtime.ts
   digest: The bounded structured size of a JSON-like value against its JSON text. -/

import JbChat.Embed.StructuredSize

/-!
A container counts one byte more than its text as soon as it is not empty: each entry is counted
with a comma behind it. An answer above the budget stays above it in every enclosing container, as
long as the budget is below the numbers that an addition of one leaves as they are.
-/

set_option autoImplicit false

namespace JbChat.Embed.StructuredText

open Foundation.JsonGrammar Foundation.CanonicalJson Foundation.Numbers StructuredSize

/-- A character that a finite number is written with. -/
def isNumeral (c : Char) : Bool := c.isDigit || decide (c ∈ ['-', '+', '.', 'e'])

/-- An object with this name has a text: it takes four more bytes, and fewer than `2 ^ 53`. -/
@[irreducible] def isWritable (name : Name) : Bool :=
  decide ((jsonStringBytes name : Int) + 4 < maxExact)

theorem isWritable_short {name : Name} (h : isWritable name = true) :
    (jsonStringBytes name : Int) + 4 < maxExact := by
  unfold isWritable at h
  exact of_decide_eq_true h

mutual

def jsonLike : StructuredValue → Bool
  | .null | .boolean _ | .string _ => true
  | .number text => isFinite text && text.toList.all isNumeral
  | .array canonical entries => canonical && entriesLike entries
  | .object plain fields => plain && fieldsLike fields
  | .undefined | .enclosing | .unsupported => false

def entriesLike : List StructuredValue → Bool
  | [] => true
  | entry :: entries => jsonLike entry && entriesLike entries

def fieldsLike : List (Name × StructuredValue) → Bool
  | [] => true
  | (key, value) :: fields => isWritable key && (jsonLike value && fieldsLike fields)

end

mutual

/-- `JSON.stringify` of a JSON-like value. -/
def stringify : StructuredValue → List Char
  | .null => ['n', 'u', 'l', 'l']
  | .boolean value => if value then ['t', 'r', 'u', 'e'] else ['f', 'a', 'l', 's', 'e']
  | .number text => text.toList
  | .string units => quote units
  | .array _ entries => '[' :: separated (stringifyEntries entries) ++ [']']
  | .object _ fields => '\x7b' :: separated (stringifyFields fields) ++ ['\x7d']
  | .undefined | .enclosing | .unsupported => []

def stringifyEntries : List StructuredValue → List (List Char)
  | [] => []
  | entry :: entries => stringify entry :: stringifyEntries entries

def stringifyFields : List (Name × StructuredValue) → List (List Char)
  | [] => []
  | (key, value) :: fields => (quote key ++ ':' :: stringify value) :: stringifyFields fields

end

def jsonBytes (value : StructuredValue) : Nat := utf8Bytes (stringify value)

mutual

def nonEmptyContainers : StructuredValue → Nat
  | .array _ entries => (if entries.isEmpty then 0 else 1) + containersInEntries entries
  | .object _ fields => (if fields.isEmpty then 0 else 1) + containersInFields fields
  | _ => 0

def containersInEntries : List StructuredValue → Nat
  | [] => 0
  | entry :: entries => nonEmptyContainers entry + containersInEntries entries

def containersInFields : List (Name × StructuredValue) → Nat
  | [] => 0
  | (_, value) :: fields => nonEmptyContainers value + containersInFields fields

end

mutual

/-- The most containers around a value inside this one. -/
def nestingDepth : StructuredValue → Nat
  | .array _ entries => entriesDepth entries
  | .object _ fields => fieldsDepth fields
  | _ => 0

def entriesDepth : List StructuredValue → Nat
  | [] => 0
  | entry :: entries => max (nestingDepth entry + 1) (entriesDepth entries)

def fieldsDepth : List (Name × StructuredValue) → Nat
  | [] => 0
  | (_, value) :: fields => max (nestingDepth value + 1) (fieldsDepth fields)

end

mutual

def mostEntries : StructuredValue → Nat
  | .array _ entries => max entries.length (mostInEntries entries)
  | .object _ fields => max fields.length (mostInFields fields)
  | _ => 0

def mostInEntries : List StructuredValue → Nat
  | [] => 0
  | entry :: entries => max (mostEntries entry) (mostInEntries entries)

def mostInFields : List (Name × StructuredValue) → Nat
  | [] => 0
  | (_, value) :: fields => max (mostEntries value) (mostInFields fields)

end

theorem numeral_size {c : Char} (h : isNumeral c = true) : c.toNat < 128 := by
  unfold isNumeral at h
  rw [Bool.or_eq_true, decide_eq_true_eq] at h
  rcases h with hdigit | hsign
  · unfold Char.isDigit at hdigit
    simp only [Bool.and_eq_true, decide_eq_true_eq] at hdigit
    have hhigh : c.toNat ≤ 57 := hdigit.2
    omega
  · fin_cases hsign <;> decide

theorem utf8Size_of_lt {c : Char} (h : c.toNat < 128) : c.utf8Size = 1 := by
  have hval : c.val ≤ 127 := by
    rw [UInt32.le_iff_toNat_le]
    exact Nat.le_of_lt_succ h
  unfold Char.utf8Size
  exact if_pos hval

@[simp] theorem utf8Bytes_nil : utf8Bytes [] = 0 := rfl

@[simp] theorem utf8Bytes_cons (c : Char) (chars : List Char) :
    utf8Bytes (c :: chars) = c.utf8Size + utf8Bytes chars := List.sum_cons

@[simp] theorem utf8Bytes_append (first second : List Char) :
    utf8Bytes (first ++ second) = utf8Bytes first + utf8Bytes second := by
  unfold utf8Bytes
  rw [List.map_append, List.sum_append]

theorem numerals_bytes {chars : List Char} (h : chars.all isNumeral = true) :
    utf8Bytes chars = chars.length := by
  induction chars with
  | nil => rfl
  | cons c chars ih =>
    obtain ⟨hc, hrest⟩ := Bool.and_eq_true_iff.mp h
    rw [utf8Bytes_cons, utf8Size_of_lt (numeral_size hc), ih hrest, List.length_cons, add_comm]

theorem length_le_utf8Bytes (chars : List Char) : chars.length ≤ utf8Bytes chars := by
  induction chars with
  | nil => exact Nat.le_refl 0
  | cons c chars ih =>
    have hpos := Char.utf8Size_pos c
    rw [utf8Bytes_cons, List.length_cons]
    omega

theorem one_le_quoteUnit (unit : Nat) : 1 ≤ (quoteUnit unit).length := by
  unfold quoteUnit
  split_ifs <;> exact Nat.succ_le_succ (Nat.zero_le _)

/-- A pair of surrogates is written as one character of four bytes. -/
theorem length_le_jsonStringBytes (units : List Nat) : units.length ≤ jsonStringBytes units := by
  have hbody : units.length ≤ utf8Bytes (quoteUnits units) := by
    induction units using quoteUnits.induct with
    | case1 => exact Nat.le_refl 0
    | case2 unit => exact (one_le_quoteUnit unit).trans (length_le_utf8Bytes _)
    | case3 high low units pair ih =>
      have hwide : 2 ≤ (pairChar high low).utf8Size := by
        have hvalue := (pairChar_units pair).2
        unfold Char.utf8Size
        dsimp only
        rw [if_neg fun hle => ?_]
        · split_ifs <;> decide
        · have hsmall : (pairChar high low).toNat ≤ 127 := UInt32.le_iff_toNat_le.mp hle
          omega
      rw [quoteUnits, if_pos pair, utf8Bytes_cons, List.length_cons, List.length_cons]
      omega
    | case4 high low units pair ih =>
      have hone := (one_le_quoteUnit high).trans (length_le_utf8Bytes _)
      rw [quoteUnits, if_neg pair, utf8Bytes_append, List.length_cons]
      omega
  unfold jsonStringBytes quote
  rw [List.cons_append, utf8Bytes_cons, utf8Bytes_append]
  omega

theorem separated_bytes (parts : List (List Char)) :
    utf8Bytes (separated parts) + (if parts.isEmpty then 0 else 1) =
      (parts.map fun part => utf8Bytes part + 1).sum := by
  have hcomma : (',').utf8Size = 1 := rfl
  induction parts with
  | nil => rfl
  | cons part parts ih =>
    cases parts with
    | nil => rfl
    | cons next parts =>
      have hjoined : separated (part :: next :: parts) =
          part ++ ',' :: separated (next :: parts) := rfl
      rw [hjoined, utf8Bytes_append, utf8Bytes_cons, hcomma, List.map_cons, List.sum_cons, ← ih]
      simp only [List.isEmpty_cons]
      omega

mutual

/-- The size that a large enough budget gives. -/
def fullSize : StructuredValue → Nat
  | .null => 4
  | .boolean value => if value then 4 else 5
  | .number text => text.length
  | .string units => jsonStringBytes units
  | .array _ entries => 2 + fullEntries entries
  | .object _ fields => 2 + fullFields fields
  | .undefined | .enclosing | .unsupported => 0

def fullEntries : List StructuredValue → Nat
  | [] => 0
  | entry :: entries => fullSize entry + 1 + fullEntries entries

def fullFields : List (Name × StructuredValue) → Nat
  | [] => 0
  | (key, value) :: fields =>
    jsonStringBytes key + 1 + fullSize value + 1 + fullFields fields

end

mutual

theorem fullSize_eq : (value : StructuredValue) → jsonLike value = true →
    fullSize value = jsonBytes value + nonEmptyContainers value
  | .null, _ => rfl
  | .boolean true, _ => rfl
  | .boolean false, _ => rfl
  | .number _, like => (numerals_bytes (Bool.and_eq_true_iff.mp like).2).symm
  | .string _, _ => rfl
  | .array _ entries, like => by
    have hentries := fullEntries_eq entries (Bool.and_eq_true_iff.mp like).2
    have hopen : ('[').utf8Size = 1 := rfl
    have hclose : (']').utf8Size = 1 := rfl
    have hsize := separated_bytes (stringifyEntries entries)
    have hempty : (stringifyEntries entries).isEmpty = entries.isEmpty := by
      cases entries <;> rfl
    rw [hempty] at hsize
    unfold fullSize jsonBytes stringify nonEmptyContainers
    simp only [List.cons_append, utf8Bytes_cons, utf8Bytes_append, utf8Bytes_nil, hopen, hclose]
    rw [hentries, ← hsize]
    omega
  | .object _ fields, like => by
    have hfields := fullFields_eq fields (Bool.and_eq_true_iff.mp like).2
    have hopen : ('\x7b').utf8Size = 1 := rfl
    have hclose : ('\x7d').utf8Size = 1 := rfl
    have hsize := separated_bytes (stringifyFields fields)
    have hempty : (stringifyFields fields).isEmpty = fields.isEmpty := by
      rcases fields with _ | ⟨⟨key, value⟩, fields⟩ <;> rfl
    rw [hempty] at hsize
    unfold fullSize jsonBytes stringify nonEmptyContainers
    simp only [List.cons_append, utf8Bytes_cons, utf8Bytes_append, utf8Bytes_nil, hopen, hclose]
    rw [hfields, ← hsize]
    omega

theorem fullEntries_eq : (entries : List StructuredValue) → entriesLike entries = true →
    fullEntries entries = ((stringifyEntries entries).map fun part => utf8Bytes part + 1).sum +
      containersInEntries entries
  | [], _ => rfl
  | entry :: entries, like => by
    obtain ⟨hentry, hentries⟩ := Bool.and_eq_true_iff.mp like
    have hvalue := fullSize_eq entry hentry
    have hrest := fullEntries_eq entries hentries
    unfold jsonBytes at hvalue
    unfold fullEntries stringifyEntries containersInEntries
    rw [List.map_cons, List.sum_cons, hvalue, hrest]
    omega

theorem fullFields_eq : (fields : List (Name × StructuredValue)) → fieldsLike fields = true →
    fullFields fields = ((stringifyFields fields).map fun part => utf8Bytes part + 1).sum +
      containersInFields fields
  | [], _ => rfl
  | (key, value) :: fields, like => by
    rw [fieldsLike, Bool.and_eq_true, Bool.and_eq_true] at like
    obtain ⟨-, hlike, hfields⟩ := like
    have hcolon : (':').utf8Size = 1 := rfl
    have hvalue := fullSize_eq value hlike
    have hothers := fullFields_eq fields hfields
    unfold jsonBytes at hvalue
    unfold fullFields stringifyFields containersInFields jsonStringBytes
    rw [List.map_cons, List.sum_cons, hvalue, hothers, utf8Bytes_append, utf8Bytes_cons, hcolon]
    omega

end

section

variable {answer : Number} {value : StructuredValue} {bounded : Prop} {size : Nat} {r : Int}

/-- The answer is exact when the value is within the bounds, and above the budget otherwise. -/
def Answers (answer : Number) (bounded : Prop) (size : Nat) (remaining : Int) : Prop :=
  (bounded ∧ (size : Int) ≤ remaining / scale ∧ answer = .finite (size * scale)) ∨
    (¬ (bounded ∧ (size : Int) ≤ remaining / scale) ∧ Above (remaining / scale + 1) answer)

/-- One more than the budget is a number of its own. -/
def Counted (remaining : Int) : Prop :=
  -maxExact ≤ remaining / scale ∧ remaining / scale < maxExact

theorem answers_overBudget (counted : Counted r) (h : ¬ (bounded ∧ (size : Int) ≤ r / scale)) :
    Answers (overBudget (.finite r)) bounded size r := by
  have hremaining : Above (r / scale) (.finite r) := Int.ediv_mul_le r scale_pos.ne'
  have hone : Above 1 (ofInt 1) := above_ofInt (by decide) (by decide) (le_refl 1)
  have hlow : -maxExact ≤ r / scale + 1 := counted.1.trans (Int.le_add_one (le_refl _))
  exact Or.inr ⟨h, hremaining.add hone (le_refl _) hlow counted.2⟩

theorem answers_size (counted : Counted r) (h : bounded) :
    Answers (ofInt size) bounded size r := by
  obtain ⟨low, high⟩ := counted
  by_cases hfits : (size : Int) ≤ r / scale
  · exact Or.inl ⟨h, hfits, ofInt_exact (by unfold maxExact; omega) (hfits.trans high.le)⟩
  · exact Or.inr ⟨fun hboth => hfits hboth.2, above_ofInt (by omega) high (by omega)⟩

theorem Answers.congr {other : Prop} (h : Answers answer bounded size r)
    (same : other ↔ bounded) : Answers answer other size r := by
  unfold Answers
  rw [same]
  exact h

/-- What is held of a sum that may be over the exact integers. -/
theorem ofInt_held {n : Int} (low : 2 ≤ n) (high : n < 2 * maxExact) :
    ∃ held : Int, ofInt n = .finite (held * scale) ∧ 2 ≤ held ∧ held ≤ n + 1 ∧
      (n ≤ maxExact → held = n) ∧ (maxExact ≤ n → maxExact ≤ held) := by
  by_cases hexact : n ≤ maxExact
  · have hlow : -maxExact ≤ n := by
      unfold maxExact
      omega
    exact ⟨n, ofInt_exact hlow hexact, low, by omega, fun _ => rfl, id⟩
  · obtain ⟨held, hheld, hbelow, habove⟩ := ofInt_near (not_le.mp hexact).le high
    have htwo : 2 ≤ maxExact := by decide
    exact ⟨held, hheld, by omega, habove, fun h => absurd h hexact, fun _ => hbelow⟩

variable {left held : Int} {next : Number → Number} {before item rest : Nat} {first later : Prop}

theorem answers_cons (counted : Counted r)
    (exact : (before : Int) ≤ r / scale ∨ held ≤ r / scale → held = before)
    (positive : 1 ≤ held) (low : -maxExact ≤ r / scale - held)
    (hleft : r / scale - held ≤ left / scale) (hroom : left / scale < maxExact)
    (hless : r < held * scale → left < 0) (hfirst : Answers answer first item left)
    (hlater : (before : Int) + item + 1 ≤ r / scale →
      Answers (next (.finite ((before + item + 1 : Nat) * scale))) later
        (before + item + 1 + rest) r) :
    let size := (Number.finite (held * scale)).add (answer.add (ofInt 1))
    Answers (if (Number.finite r).lt size then size else next size) (first ∧ later)
      (before + (item + 1 + rest)) r := by
  obtain ⟨hlow, hhigh⟩ := counted
  intro size
  have hover (above : Above (r / scale + 1) size)
      (hno : ¬ ((first ∧ later) ∧ ((before + (item + 1 + rest) : Nat) : Int) ≤ r / scale)) :
      Answers (if (Number.finite r).lt size then size else next size) (first ∧ later)
        (before + (item + 1 + rest)) r := by
    rw [if_pos above.lt]
    exact Or.inr ⟨hno, above⟩
  rcases hfirst with ⟨hbounded, hfits, rfl⟩ | ⟨hno, habove⟩
  · -- What is left is not negative, so nothing has been rounded.
    have hpositive : ¬ left < 0 := fun h => by
      have hneg := Int.ediv_neg_of_neg_of_pos h scale_pos
      omega
    have hheld : held = before :=
      exact (Or.inr (not_lt.mp fun h => hpositive (hless ((lt_units r held).mpr h))))
    have hsize : size = ofInt ((before + item + 1 : Nat) : Int) := by
      have hinner : (Number.finite (item * scale)).add (ofInt 1) = .finite ((item + 1) * scale) := by
        rw [ofInt_exact (by decide) (by decide), finite_add]
        exact ofInt_exact (by unfold maxExact; omega) (by omega)
      change (Number.finite (held * scale)).add _ = _
      rw [hinner, finite_add, hheld]
      exact congrArg ofInt (by omega)
    by_cases htotal : (before : Int) + item + 1 ≤ r / scale
    · have hexact : size = .finite ((before + item + 1 : Nat) * scale) := by
        rw [hsize, ofInt_exact (by unfold maxExact; omega) (by omega)]
      rw [hexact, lt_finite, if_neg fun h => ?_]
      · rcases hlater htotal with ⟨hrest, hsum, hanswer⟩ | ⟨hno, habove⟩
        · exact Or.inl ⟨⟨hbounded, hrest⟩, by omega, by
            rw [hanswer, show before + item + 1 + rest = before + (item + 1 + rest) by omega]⟩
        · exact Or.inr ⟨fun hboth => hno ⟨hboth.1.2, by omega⟩, habove⟩
      · have hlt := (lt_units r _).mp (of_decide_eq_true h)
        omega
    · refine hover ?_ fun hboth => by omega
      rw [hsize]
      exact above_ofInt (by omega) hhigh (by omega)
  · have hone : Above 1 (ofInt 1) := above_ofInt (by decide) (by decide) (le_refl 1)
    have hnext : Above (r / scale - held + 1) (answer.add (ofInt 1)) :=
      habove.add hone (by omega) (by omega) (by omega)
    have hbase : Above held (.finite (held * scale)) := le_refl (held * scale)
    refine hover (hbase.add hnext (by omega) (by omega) hhigh) fun hboth => ?_
    have hheld := exact (Or.inl (by omega))
    exact hno ⟨hboth.1.1, by omega⟩

def Bounded (value : StructuredValue) (depth : Nat) : Prop :=
  depth + nestingDepth value ≤ maxStructuredDepth ∧ mostEntries value ≤ maxContainerEntries

def EntriesBounded (entries : List StructuredValue) (depth : Nat) : Prop :=
  depth + entriesDepth entries ≤ maxStructuredDepth ∧ mostInEntries entries ≤ maxContainerEntries

def FieldsBounded (fields : List (Name × StructuredValue)) (depth : Nat) : Prop :=
  depth + fieldsDepth fields ≤ maxStructuredDepth ∧ mostInFields fields ≤ maxContainerEntries

theorem entriesBounded_cons (entry : StructuredValue) (entries : List StructuredValue)
    (depth : Nat) : EntriesBounded (entry :: entries) depth ↔
      Bounded entry (depth + 1) ∧ EntriesBounded entries depth := by
  unfold EntriesBounded Bounded
  rw [entriesDepth, mostInEntries]
  omega

theorem fieldsBounded_cons (key : Name) (value : StructuredValue)
    (fields : List (Name × StructuredValue)) (depth : Nat) :
    FieldsBounded ((key, value) :: fields) depth ↔
      Bounded value (depth + 1) ∧ FieldsBounded fields depth := by
  unfold FieldsBounded Bounded
  rw [fieldsDepth, mostInFields]
  omega

theorem lt_zero (r : Int) : (Number.finite r).lt (ofInt 0) = decide (r / scale < 0) := by
  rw [ofInt_exact (by decide) (by decide), lt_finite]
  exact decide_eq_decide.mpr (lt_units r 0)

theorem answers_guarded {depth : Nat} (counted : Counted r)
    (h : 0 ≤ r / scale → depth ≤ maxStructuredDepth →
      Answers answer (Bounded value depth) size r) :
    Answers (if (Number.finite r).lt (ofInt 0) ∨ maxStructuredDepth < depth then
        overBudget (.finite r) else answer) (Bounded value depth) size r := by
  simp only [lt_zero, decide_eq_true_eq]
  by_cases hguard : r / scale < 0 ∨ maxStructuredDepth < depth
  · rw [if_pos hguard]
    exact answers_overBudget counted fun ⟨hbounded, hfits⟩ => by
      have hdepth := Nat.le_trans (Nat.le_add_right _ _) hbounded.1
      omega
  · rw [if_neg hguard]
    exact h (not_lt.mp fun hlt => hguard (Or.inl hlt))
      (Nat.le_of_not_lt fun hlt => hguard (Or.inr hlt))

theorem answers_container {depth count : Nat} {inner : Prop} (counted : Counted r)
    (h : Bounded value depth ↔ inner ∧ count ≤ maxContainerEntries)
    (entries : Answers answer inner size r) :
    Answers (if maxContainerEntries < count then overBudget (.finite r) else answer)
      (Bounded value depth) size r := by
  by_cases hmany : maxContainerEntries < count
  · rw [if_pos hmany]
    exact answers_overBudget counted fun hboth =>
      absurd (h.mp hboth.1).2 (Nat.not_le.mpr hmany)
  · rw [if_neg hmany]
    exact entries.congr (h.trans (and_iff_left (Nat.le_of_not_lt hmany)))

theorem answers_string {depth : Nat} (counted : Counted r) (units : List Nat)
    (hdepth : depth ≤ maxStructuredDepth) :
    Answers (if (Number.finite r).lt (ofInt units.length) then overBudget (.finite r)
        else ofInt (jsonStringBytes units)) (Bounded (.string units) depth)
      (jsonStringBytes units) r := by
  have hlength := length_le_jsonStringBytes units
  by_cases hlong : (Number.finite r).lt (ofInt units.length) = true
  · rw [if_pos hlong]
    refine answers_overBudget counted fun hboth => ?_
    have hfits : (units.length : Int) ≤ r / scale := (Int.ofNat_le.mpr hlength).trans hboth.2
    rw [ofInt_exact (by unfold maxExact; omega) (hfits.trans counted.2.le), lt_finite] at hlong
    have hlt := (lt_units r _).mp (of_decide_eq_true hlong)
    omega
  · rw [if_neg hlong]
    exact answers_size counted ⟨hdepth, Nat.zero_le _⟩

mutual

theorem structuredSize_answers : (value : StructuredValue) → jsonLike value = true →
    (r : Int) → Counted r → (depth : Nat) →
      Answers (structuredSize value (.finite r) depth) (Bounded value depth) (fullSize value) r
  | .null, _, r, counted, depth => by
    unfold structuredSize
    exact answers_guarded counted fun _ hdepth => answers_size counted ⟨hdepth, Nat.zero_le _⟩
  | .boolean true, _, r, counted, depth => by
    unfold structuredSize
    exact answers_guarded counted fun _ hdepth => answers_size counted ⟨hdepth, Nat.zero_le _⟩
  | .boolean false, _, r, counted, depth => by
    unfold structuredSize
    exact answers_guarded counted fun _ hdepth => answers_size counted ⟨hdepth, Nat.zero_le _⟩
  | .number text, like, r, counted, depth => by
    unfold structuredSize
    refine answers_guarded counted fun _ hdepth => ?_
    rw [if_pos (Bool.and_eq_true_iff.mp like).1]
    exact answers_size counted ⟨hdepth, Nat.zero_le _⟩
  | .string units, _, r, counted, depth => by
    unfold structuredSize
    exact answers_guarded counted fun _ hdepth => answers_string counted units hdepth
  | .array canonical entries, like, r, counted, depth => by
    obtain ⟨hcanonical, hentries⟩ := Bool.and_eq_true_iff.mp like
    have hbounded : Bounded (.array canonical entries) depth ↔
        EntriesBounded entries depth ∧ entries.length ≤ maxContainerEntries := by
      unfold Bounded EntriesBounded
      rw [nestingDepth, mostEntries]
      omega
    unfold structuredSize
    refine answers_guarded counted fun hpositive hdepth => ?_
    simp only [hcanonical, Bool.true_eq_false, or_false]
    rw [ofInt_exact (by decide) (by decide)]
    exact answers_container counted hbounded
      (entriesSize_answers entries hentries r counted hpositive depth hdepth 2 (by decide)
        (le_max_right _ _))
  | .object plain fields, like, r, counted, depth => by
    obtain ⟨hplain, hfields⟩ := Bool.and_eq_true_iff.mp like
    have hbounded : Bounded (.object plain fields) depth ↔
        FieldsBounded fields depth ∧ fields.length ≤ maxContainerEntries := by
      unfold Bounded FieldsBounded
      rw [nestingDepth, mostEntries]
      omega
    unfold structuredSize
    refine answers_guarded counted fun hpositive hdepth => ?_
    rw [if_neg (by rw [hplain]; exact Bool.noConfusion), ofInt_exact (by decide) (by decide)]
    exact answers_container counted hbounded
      (fieldsSize_answers fields hfields r counted hpositive depth hdepth 2 (by decide)
        (le_max_right _ _))

theorem entriesSize_answers : (entries : List StructuredValue) → entriesLike entries = true →
    (r : Int) → Counted r → 0 ≤ r / scale → (depth : Nat) → depth ≤ maxStructuredDepth →
      (acc : Nat) → 2 ≤ acc → (acc : Int) ≤ max (r / scale) 2 →
      Answers (entriesSize entries (.finite r) depth (.finite (acc * scale)))
        (EntriesBounded entries depth) (acc + fullEntries entries) r
  | [], _, r, counted, _, depth, hdepth, acc, _, hacc => by
    have hhigh := counted.2
    have hmax : 2 ≤ maxExact := by decide
    unfold entriesSize
    rw [← ofInt_exact (n := acc) (by unfold maxExact; omega) (by omega)]
    exact answers_size counted ⟨hdepth, Nat.zero_le _⟩
  | entry :: entries, like, r, counted, hpositive, depth, hdepth, acc, htwo, hacc => by
    obtain ⟨hentry, hentries⟩ := Bool.and_eq_true_iff.mp like
    have hlow : -maxExact ≤ r / scale - acc := by
      unfold maxExact
      omega
    obtain ⟨left, hsub, hleft, hroom, hless⟩ := sub_ofInt (by omega) hlow counted.2
    have hfirst := structuredSize_answers entry hentry left ⟨hlow.trans hleft, hroom⟩ (depth + 1)
    unfold entriesSize fullEntries
    rw [hsub]
    exact (answers_cons counted (fun _ => rfl) (by omega) hlow hleft hroom hless hfirst
      fun htotal => entriesSize_answers entries hentries r counted hpositive depth hdepth
        (acc + fullSize entry + 1) (by omega) (by omega)).congr
      (entriesBounded_cons entry entries depth)

theorem fieldsSize_answers : (fields : List (Name × StructuredValue)) →
    fieldsLike fields = true → (r : Int) → Counted r → 0 ≤ r / scale → (depth : Nat) →
      depth ≤ maxStructuredDepth → (acc : Nat) → 2 ≤ acc → (acc : Int) ≤ max (r / scale) 2 →
      Answers (fieldsSize fields (.finite r) depth (.finite (acc * scale)))
        (FieldsBounded fields depth) (acc + fullFields fields) r
  | [], _, r, counted, _, depth, hdepth, acc, _, hacc => by
    have hhigh := counted.2
    have hmax : 2 ≤ maxExact := by decide
    unfold fieldsSize
    rw [← ofInt_exact (n := acc) (by unfold maxExact; omega) (by omega)]
    exact answers_size counted ⟨hdepth, Nat.zero_le _⟩
  | (key, value) :: fields, like, r, counted, hpositive, depth, hdepth, acc, htwo, hacc => by
    rw [fieldsLike, Bool.and_eq_true, Bool.and_eq_true] at like
    obtain ⟨hkey, hvalue, hfields⟩ := like
    have hshort : (jsonStringBytes key : Int) + 4 < maxExact := isWritable_short hkey
    have hhigh := counted.2
    obtain ⟨held, hheld, hheldPositive, hnear, hexact, hlarge⟩ :=
      ofInt_held (n := acc + (jsonStringBytes key + 1)) (by omega) (by omega)
    have hlow : -maxExact ≤ r / scale - held := by omega
    obtain ⟨left, hsub, hleft, hroom, hless⟩ := sub_ofInt (by omega) hlow counted.2
    have hfirst := structuredSize_answers value hvalue left ⟨hlow.trans hleft, hroom⟩ (depth + 1)
    have hadded : (Number.finite (acc * scale)).add
        ((ofInt (jsonStringBytes key)).add (ofInt 1)) = .finite (held * scale) := by
      rw [ofInt_exact (by unfold maxExact; omega) (by omega),
        ofInt_exact (n := 1) (by decide) (by decide), finite_add,
        ofInt_exact (by unfold maxExact; omega) (by omega), finite_add, hheld]
    have hsize : acc + fullFields ((key, value) :: fields) =
        (acc + jsonStringBytes key + 1) + (fullSize value + 1 + fullFields fields) := by
      rw [fullFields]
      omega
    unfold fieldsSize fieldSize
    rw [hadded]
    dsimp only
    rw [hsub, hsize]
    exact (answers_cons counted (fun h => by omega) (by omega) hlow hleft hroom hless hfirst
      fun htotal => fieldsSize_answers fields hfields r counted hpositive depth hdepth
        (acc + jsonStringBytes key + 1 + fullSize value + 1) (by omega) (by omega)).congr
      (fieldsBounded_cons key value fields depth)

end

/-- No number, or one from `-2 ^ 53` on and below `2 ^ 53`. -/
def CountableLimit : Number → Prop
  | .finite units => -maxExact * scale ≤ units ∧ units < maxExact * scale
  | .infinite _ => False
  | .nan => True

/-- Not below the integer. -/
def Admits (limit : Number) (n : Int) : Prop :=
  ∃ units, limit = .finite units ∧ n * scale ≤ units

/-- A value has a structured size within a limit exactly when it is not nested too deep, has no
container with too many entries, and its text and its non-empty containers fit. -/
theorem structured_size_exact {value : StructuredValue} (like : jsonLike value = true)
    {maximumBytes : Number} (countable : CountableLimit maximumBytes) :
    ((structuredSizeWithin value maximumBytes).isSome ↔
      nestingDepth value ≤ 8 ∧ mostEntries value ≤ 64 ∧
        Admits maximumBytes (jsonBytes value + nonEmptyContainers value)) ∧
    ∀ size, structuredSizeWithin value maximumBytes = some size →
      size = .finite ((jsonBytes value + nonEmptyContainers value) * scale) := by
  have hfull : (fullSize value : Int) = jsonBytes value + nonEmptyContainers value := by
    rw [fullSize_eq value like]
    rfl
  have hbounded : Bounded value 0 ↔ nestingDepth value ≤ 8 ∧ mostEntries value ≤ 64 := by
    unfold Bounded maxStructuredDepth maxContainerEntries
    rw [Nat.zero_add]
  rw [← hfull, ← and_assoc, ← hbounded]
  cases maximumBytes with
  | infinite negative => exact countable.elim
  | nan =>
    have hnone : structuredSizeWithin value .nan = none := by
      unfold structuredSizeWithin
      cases structuredSize value .nan 0 <;> rfl
    rw [hnone]
    refine ⟨⟨fun h => absurd h Bool.false_ne_true, ?_⟩, fun size h => by cases h⟩
    rintro ⟨-, units, ⟨⟩, -⟩
  | finite units =>
    obtain ⟨hlow, hhigh⟩ := countable
    have hcounted : Counted units :=
      ⟨(Int.le_ediv_iff_mul_le scale_pos).mpr hlow, (lt_units units _).mp hhigh⟩
    have hadmits : Admits (.finite units) (fullSize value) ↔
        (fullSize value : Int) ≤ units / scale := by
      rw [Int.le_ediv_iff_mul_le scale_pos]
      exact ⟨fun ⟨_, heq, hle⟩ => by cases heq; exact hle, fun hle => ⟨units, rfl, hle⟩⟩
    rw [hadmits]
    unfold structuredSizeWithin
    dsimp only
    rcases structuredSize_answers value like units hcounted 0 with
      ⟨hwithin, hfits, hsize⟩ | ⟨hover, habove⟩
    · have hle : (Number.finite (fullSize value * scale)).le (.finite units) = true :=
        decide_eq_true ((Int.le_ediv_iff_mul_le scale_pos).mp hfits)
      rw [hsize, if_pos hle]
      exact ⟨⟨fun _ => ⟨hwithin, hfits⟩, fun _ => rfl⟩, fun size h => by cases h; rfl⟩
    · have hlt := habove.lt
      unfold Number.lt at hlt
      rw [Bool.and_eq_true, Bool.not_eq_true'] at hlt
      rw [hlt.2, if_neg Bool.false_ne_true]
      exact ⟨⟨fun h => absurd h Bool.false_ne_true, fun h => absurd h hover⟩,
        fun size h => by cases h⟩

theorem countableLimit_ofInt {n : Int} (low : -maxExact ≤ n) (high : n < maxExact) :
    CountableLimit (ofInt n) := by
  rw [ofInt_exact low high.le]
  exact ⟨mul_le_mul_of_nonneg_right low scale_pos.le, mul_lt_mul_of_pos_right high scale_pos⟩

theorem admits_ofInt {m n : Int} (low : -maxExact ≤ m) (high : m ≤ maxExact) :
    Admits (ofInt m) n ↔ n ≤ m := by
  rw [ofInt_exact low high]
  refine ⟨?_, fun h => ⟨m * scale, rfl, mul_le_mul_of_nonneg_right h scale_pos.le⟩⟩
  rintro ⟨units, ⟨⟩, h⟩
  exact le_of_mul_le_mul_right h scale_pos

def sampleValue : StructuredValue :=
  .array true [.number "-12.5", .record [("a\n", .array true []), ("b", .string [0xD800])]]

/-- 31 bytes of text, half a surrogate pair in it, and two containers that are not empty. -/
theorem structured_size_exact_nested :
    structuredSizeWithin sampleValue (ofInt 33) = some (ofInt 33) ∧
      structuredSizeWithin sampleValue (ofInt 32) = none := by
  have hlike : jsonLike sampleValue = true := by decide +kernel
  have hbytes : jsonBytes sampleValue = 31 := by decide +kernel
  have hcontainers : nonEmptyContainers sampleValue = 2 := by decide +kernel
  have hbounds : nestingDepth sampleValue ≤ 8 ∧ mostEntries sampleValue ≤ 64 := by decide +kernel
  obtain ⟨hsome, hsize⟩ := structured_size_exact hlike
    (countableLimit_ofInt (n := 33) (by decide) (by decide))
  obtain ⟨hnone, -⟩ := structured_size_exact hlike
    (countableLimit_ofInt (n := 32) (by decide) (by decide))
  rw [hbytes, hcontainers] at hsome hsize hnone
  rw [admits_ofInt (by decide) (by decide)] at hsome hnone
  constructor
  · obtain ⟨size, h⟩ := Option.isSome_iff_exists.mp
      (hsome.mpr ⟨hbounds.1, hbounds.2, by decide⟩)
    rw [h, hsize size h, ofInt_exact (by decide) (by decide)]
    rfl
  · rw [← Option.not_isSome_iff_eq_none, hnone]
    exact fun h => absurd h.2.2 (by decide)

def crowdedValue : StructuredValue := .array true (List.replicate 65 .null)

/-- Limits that an addition of one leaves as they are let a container with too many entries
through. -/
theorem structured_size_absorbed :
    mostEntries crowdedValue = 65 ∧
      structuredSizeWithin crowdedValue (ofInt (2 ^ 53)) = some (ofInt (2 ^ 53)) ∧
      structuredSizeWithin crowdedValue (.infinite false) = some (.infinite false) ∧
      structuredSizeWithin crowdedValue (.infinite true) = some (.infinite true) := by
  decide +kernel

end

end JbChat.Embed.StructuredText
