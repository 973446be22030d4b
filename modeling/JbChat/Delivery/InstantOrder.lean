/- source: src/production/delivery/valueObjects.ts, state.ts
   digest: Canonical instants are ordered as their milliseconds, and every millisecond of their
     range has one. -/

import JbChat.Delivery.Instants
import JbChat.Foundation.FixedLayout
import Mathlib.Data.Nat.Find
import Mathlib.Order.Monotone.Basic

set_option autoImplicit false

namespace JbChat.Delivery.InstantOrder

open Foundation.FixedLayout ValueObjects Instants

/-- The first day of a month, months counted from the start of the year zero. -/
def monthStart (index : Nat) : Int := daysFromCivil (index / 12) (index % 12 + 1) 1

private theorem daysFromCivil_eq (year month day : Nat) :
    daysFromCivil year month day =
      (let y : Int := if month ≤ 2 then (year : Int) - 1 else year
      365 * y + y / 4 - y / 100 + y / 400 + ((153 * ((month + 9) % 12) + 2) / 5 + day : Nat) -
        719469) := by
  unfold daysFromCivil
  dsimp only
  omega

theorem daysFromCivil_day (year month day : Nat) :
    daysFromCivil year month day = daysFromCivil year month 1 + (day - 1) := by
  rw [daysFromCivil_eq, daysFromCivil_eq]
  dsimp only
  omega

theorem monthStart_succ (index : Nat) :
    monthStart (index + 1) = monthStart index + daysInMonth (index / 12) (index % 12 + 1) := by
  unfold monthStart
  rw [daysFromCivil_eq, daysFromCivil_eq]
  have hmonth : index % 12 < 12 := Nat.mod_lt _ (by decide)
  have leap : isLeapYear (index / 12) = true ↔
      (index / 12) % 4 = 0 ∧ ((index / 12) % 100 ≠ 0 ∨ (index / 12) % 400 = 0) := by
    simp [isLeapYear]
  by_cases last : index % 12 = 11
  · have hyear : (index + 1) / 12 = index / 12 + 1 := by omega
    have hnext : (index + 1) % 12 = 0 := by omega
    rw [hyear, hnext, last]
    simp only [daysInMonth]
    norm_num
    omega
  · have hyear : (index + 1) / 12 = index / 12 := by omega
    have hnext : (index + 1) % 12 = index % 12 + 1 := by omega
    rw [hyear, hnext]
    generalize index / 12 = year at leap ⊢
    generalize index % 12 = month at hmonth last ⊢
    by_cases february : month = 1
    · subst february
      by_cases hleap : isLeapYear year = true
      · have := leap.mp hleap
        simp only [daysInMonth, hleap]
        norm_num
        omega
      · have := mt leap.mpr hleap
        simp only [daysInMonth, hleap]
        norm_num
        omega
    · interval_cases month <;> first | omega | (simp only [daysInMonth]; norm_num; omega)

theorem daysInMonth_bounds (year month : Nat) :
    28 ≤ daysInMonth year month ∧ daysInMonth year month ≤ 31 := by
  unfold daysInMonth
  split_ifs <;> decide

theorem monthStart_strictMono : StrictMono monthStart := by
  refine strictMono_nat_of_lt_succ ?_
  intro index
  have bounds := daysInMonth_bounds (index / 12) (index % 12 + 1)
  rw [monthStart_succ]
  omega

theorem monthEnd_le {index later : Nat} (h : index < later) :
    monthStart index + daysInMonth (index / 12) (index % 12 + 1) ≤ monthStart later := by
  rw [← monthStart_succ]
  exact monthStart_strictMono.monotone h

/-- The fields are those of a real instant. -/
structure RealFields (t : CivilTime) : Prop where
  month : 1 ≤ t.month ∧ t.month ≤ 12
  day : 1 ≤ t.day ∧ t.day ≤ daysInMonth t.year t.month
  hour : t.hour ≤ 23
  minute : t.minute ≤ 59
  second : t.second ≤ 59
  millisecond : t.millisecond ≤ 999

def monthIndex (t : CivilTime) : Nat := 12 * t.year + (t.month - 1)

/-- The milliseconds of the fields. -/
def instantOf (t : CivilTime) : Int :=
  ((daysFromCivil t.year t.month t.day * 24 + t.hour) * 60 + t.minute) * 60000 +
    t.second * 1000 + t.millisecond

/-- The digits of the fields, one after the other. -/
def numberOf (t : CivilTime) : Nat :=
  t.year * 10 ^ 13 + t.month * 10 ^ 11 + t.day * 10 ^ 9 + t.hour * 10 ^ 7 + t.minute * 10 ^ 5 +
    t.second * 10 ^ 3 + t.millisecond

theorem dateParse_eq (text : String) : dateParse text = instantOf (civilTime text) := rfl

theorem RealFields.index {t : CivilTime} (real : RealFields t) :
    monthIndex t / 12 = t.year ∧ monthIndex t % 12 + 1 = t.month := by
  have hmonth := real.month
  unfold monthIndex
  omega

theorem RealFields.days {t : CivilTime} (real : RealFields t) :
    daysFromCivil t.year t.month t.day =
      monthStart (monthIndex t) + ((t.day : Int) - 1) := by
  obtain ⟨hyear, hmonth⟩ := real.index
  rw [daysFromCivil_day, monthStart, hyear, hmonth]

theorem RealFields.instant_lt {s t : CivilTime} (real : RealFields s)
    (real' : RealFields t) (h : numberOf s < numberOf t) :
    instantOf s < instantOf t := by
  have hmonth := real.month
  have hmonth' := real'.month
  have hday := real.day
  have hday' := real'.day
  have hhour := real.hour
  have hhour' := real'.hour
  have hminute := real.minute
  have hminute' := real'.minute
  have hsecond := real.second
  have hsecond' := real'.second
  have hmillisecond := real.millisecond
  have hmillisecond' := real'.millisecond
  have hlength := daysInMonth_bounds s.year s.month
  have hlength' := daysInMonth_bounds t.year t.month
  unfold numberOf at h
  have order : monthIndex s ≤ monthIndex t := by
    unfold monthIndex
    omega
  unfold instantOf
  rw [real.days, real'.days]
  rcases Nat.eq_or_lt_of_le order with same | earlier
  · rw [same]
    unfold monthIndex at same
    omega
  · obtain ⟨hyear, hmonth⟩ := real.index
    have later := monthEnd_le earlier
    rw [hyear, hmonth] at later
    omega

section

/-- The layout of canonical instants. -/
def rfc3339Layout : List Slot :=
  field 4 '-' (field 2 '-' (field 2 'T' (field 2 ':' (field 2 ':' (field 2 '.' (field 3 'Z' []))))))

private theorem matchesEach_iff_fits (layout : List Slot) (chars : List Char) :
    matchesEach (layout.map Slot.test) chars = true ↔ Fits layout chars := by
  unfold Fits
  induction layout generalizing chars with
  | nil =>
    cases chars with
    | nil => simp [matchesEach]
    | cons c chars => simp [matchesEach]
  | cons slot layout ih =>
    cases chars with
    | nil => simp [matchesEach]
    | cons c chars =>
      rw [List.map_cons, matchesEach, Bool.and_eq_true, ih, List.forall₂_cons]

theorem matchesEach_rfc3339 (text : String) :
    matchesEach rfc3339Tests text.toList = true ↔ Fits rfc3339Layout text.toList := by
  have same : rfc3339Tests = rfc3339Layout.map Slot.test := by
    simp only [rfc3339Tests, rfc3339Layout, field, List.map_append, List.map_cons, List.map_nil,
      List.map_replicate, Slot.test, List.append_assoc, List.cons_append, List.nil_append]
  rw [same]
  exact matchesEach_iff_fits rfc3339Layout text.toList

theorem number_text {text : String} (fits : Fits rfc3339Layout text.toList) :
    number rfc3339Layout text.toList = numberOf (civilTime text) := by
  have hlength : text.toList.length = 24 := (List.Forall₂.length_eq fits).symm
  have nothing (chars : List Char) : number [] chars = 0 := rfl
  have none : digits [] = 0 := rfl
  unfold rfc3339Layout
  rw [number_field 4 _ (by omega), number_field 2 _ (by rw [List.length_drop]; omega),
    List.drop_drop, number_field 2 _ (by rw [List.length_drop]; omega), List.drop_drop,
    number_field 2 _ (by rw [List.length_drop]; omega), List.drop_drop,
    number_field 2 _ (by rw [List.length_drop]; omega), List.drop_drop,
    number_field 2 _ (by rw [List.length_drop]; omega), List.drop_drop,
    number_field 3 _ (by rw [List.length_drop]; omega), List.drop_drop]
  simp only [digits_field, none, nothing, numberOf, civilTime, digitsAt, List.drop_zero]
  ring

/-- Each field has at most its digits. -/
private def Narrow (t : CivilTime) : Prop :=
  t.month < 100 ∧ t.day < 100 ∧ t.hour < 100 ∧ t.minute < 100 ∧ t.second < 100 ∧
    t.millisecond < 1000

private theorem narrow_text {text : String} (fits : Fits rfc3339Layout text.toList) :
    Narrow (civilTime text) :=
  ⟨ofDigitChars_lt fits 5 2 rfl, ofDigitChars_lt fits 8 2 rfl, ofDigitChars_lt fits 11 2 rfl,
    ofDigitChars_lt fits 14 2 rfl, ofDigitChars_lt fits 17 2 rfl, ofDigitChars_lt fits 20 3 rfl⟩

private theorem Narrow.fields_eq {s t : CivilTime} (hs : Narrow s) (ht : Narrow t)
    (h : numberOf s = numberOf t) : s = t := by
  cases s
  cases t
  simp only [Narrow, numberOf] at hs ht h
  simp only [CivilTime.mk.injEq]
  omega

private theorem RealFields.narrow {t : CivilTime} (real : RealFields t) : Narrow t := by
  have hmonth := real.month
  have hday := real.day
  have hhour := real.hour
  have hminute := real.minute
  have hsecond := real.second
  have hmillisecond := real.millisecond
  have hlength := daysInMonth_bounds t.year t.month
  unfold Narrow
  omega

theorem isRfc3339Millis_iff (text : String) :
    isRfc3339Millis text = true ↔
      Fits rfc3339Layout text.toList ∧ RealFields (civilTime text) := by
  unfold isRfc3339Millis
  rw [Bool.and_eq_true, matchesEach_rfc3339]
  refine and_congr_right fun fits => ?_
  simp only [isRealInstant, Bool.and_eq_true, decide_eq_true_eq]
  constructor
  · rintro ⟨⟨⟨⟨⟨⟨hmonth, hmonth'⟩, hday⟩, hday'⟩, hhour⟩, hminute⟩, hsecond⟩
    exact ⟨⟨hmonth, hmonth'⟩, ⟨hday, hday'⟩, hhour, hminute, hsecond,
      Nat.le_of_lt_succ (narrow_text fits).2.2.2.2.2⟩
  · rintro ⟨⟨hmonth, hmonth'⟩, ⟨hday, hday'⟩, hhour, hminute, hsecond, -⟩
    exact ⟨⟨⟨⟨⟨⟨hmonth, hmonth'⟩, hday⟩, hday'⟩, hhour⟩, hminute⟩, hsecond⟩

variable {a b : String}

theorem lt_iff_dateParse_lt (ha : isRfc3339Millis a = true) (hb : isRfc3339Millis b = true) :
    a < b ↔ dateParse a < dateParse b := by
  have ordered : ∀ {a b : String}, isRfc3339Millis a = true → isRfc3339Millis b = true →
      a < b → dateParse a < dateParse b := by
    intro a b ha hb h
    obtain ⟨fits, real⟩ := (isRfc3339Millis_iff a).mp ha
    obtain ⟨fits', real'⟩ := (isRfc3339Millis_iff b).mp hb
    rw [String.lt_iff_toList_lt, lt_iff_number_lt fits fits', number_text fits,
      number_text fits'] at h
    exact real.instant_lt real' h
  refine ⟨ordered ha hb, ?_⟩
  intro h
  rcases lt_trichotomy a b with hlt | rfl | hgt
  · exact hlt
  · exact absurd h (lt_irrefl _)
  · exact absurd (ordered hb ha hgt) (lt_asymm h)

theorem le_iff_dateParse_le (ha : isRfc3339Millis a = true) (hb : isRfc3339Millis b = true) :
    a ≤ b ↔ dateParse a ≤ dateParse b := by
  rw [← not_lt, ← not_lt, lt_iff_dateParse_lt hb ha]

theorem dateParse_injective (ha : isRfc3339Millis a = true) (hb : isRfc3339Millis b = true)
    (h : dateParse a = dateParse b) : a = b :=
  le_antisymm ((le_iff_dateParse_le ha hb).mpr h.le) ((le_iff_dateParse_le hb ha).mpr h.ge)

end

section

/-- The first and the last instant that are written with four digits of the year. -/
def firstInstant : Int := -62167219200000
def lastInstant : Int := 253402300799999

def monthOfDay (day : Int) : Nat := Nat.findGreatest (fun index => monthStart index ≤ day) 119999

/-- The fields of an instant. -/
def civilOf (milliseconds : Int) : CivilTime :=
  let day := milliseconds / 86400000
  let rest := (milliseconds % 86400000).toNat
  let index := monthOfDay day
  { year := index / 12
    month := index % 12 + 1
    day := (day - monthStart index).toNat + 1
    hour := rest / 3600000
    minute := rest / 60000 % 60
    second := rest / 1000 % 60
    millisecond := rest % 1000 }

/-- `toISOString` of the instants that it writes in the canonical format. -/
def toISOString (milliseconds : Int) : Option String :=
  if firstInstant ≤ milliseconds ∧ milliseconds ≤ lastInstant then
    some (String.ofList (write rfc3339Layout (numberOf (civilOf milliseconds))))
  else none

variable {milliseconds : Int}

private theorem monthStart_zero : monthStart 0 = -719528 := by decide +kernel

private theorem monthStart_limit : monthStart 120000 = 2932897 := by decide +kernel

theorem monthOfDay_spec {day : Int} (first : monthStart 0 ≤ day) (last : day < monthStart 120000) :
    monthOfDay day ≤ 119999 ∧ monthStart (monthOfDay day) ≤ day ∧
      day < monthStart (monthOfDay day + 1) := by
  have hle : monthOfDay day ≤ 119999 := Nat.findGreatest_le 119999
  have hstart : monthStart (monthOfDay day) ≤ day :=
    Nat.findGreatest_spec (P := fun index => monthStart index ≤ day) (Nat.zero_le 119999) first
  refine ⟨hle, hstart, ?_⟩
  rcases Nat.eq_or_lt_of_le hle with hlast | hbefore
  · rw [hlast]
    exact last
  · have := Nat.findGreatest_is_greatest (P := fun index => monthStart index ≤ day)
      (Nat.lt_succ_self (monthOfDay day)) hbefore
    exact not_le.mp this

theorem civilOf_spec (first : firstInstant ≤ milliseconds) (last : milliseconds ≤ lastInstant) :
    RealFields (civilOf milliseconds) ∧ (civilOf milliseconds).year ≤ 9999 ∧
      instantOf (civilOf milliseconds) = milliseconds := by
  unfold firstInstant at first
  unfold lastInstant at last
  have dayFirst : monthStart 0 ≤ milliseconds / 86400000 := by
    rw [monthStart_zero]
    omega
  have dayLast : milliseconds / 86400000 < monthStart 120000 := by
    rw [monthStart_limit]
    omega
  obtain ⟨hle, hstart, hend⟩ := monthOfDay_spec dayFirst dayLast
  rw [monthStart_succ] at hend
  have real : RealFields (civilOf milliseconds) := by
    constructor <;> simp only [civilOf] <;> omega
  have index : monthIndex (civilOf milliseconds) = monthOfDay (milliseconds / 86400000) := by
    simp only [monthIndex, civilOf]
    omega
  refine ⟨real, ?_, ?_⟩
  · simp only [civilOf]
    omega
  · unfold instantOf
    rw [real.days, index]
    simp only [civilOf]
    omega

theorem toISOString_spec (first : firstInstant ≤ milliseconds)
    (last : milliseconds ≤ lastInstant) :
    ∃ text, toISOString milliseconds = some text ∧ isRfc3339Millis text = true ∧
      dateParse text = milliseconds := by
  obtain ⟨real, hyear, hinstant⟩ := civilOf_spec first last
  have narrow := real.narrow
  let text := String.ofList (write rfc3339Layout (numberOf (civilOf milliseconds)))
  have chars : text.toList = write rfc3339Layout (numberOf (civilOf milliseconds)) :=
    String.toList_ofList
  have fits : Fits rfc3339Layout text.toList := by
    rw [chars]
    exact fits_write rfc3339Layout _
  have hnumber : numberOf (civilTime text) = numberOf (civilOf milliseconds) := by
    have small : numberOf (civilOf milliseconds) < 10 ^ 17 := by
      unfold Narrow at narrow
      unfold numberOf
      omega
    have hdigits : digits rfc3339Layout = 17 := by decide
    rw [← number_text fits, chars, number_write, hdigits, Nat.mod_eq_of_lt small]
  have hfields : civilTime text = civilOf milliseconds :=
    (narrow_text fits).fields_eq narrow hnumber
  refine ⟨text, if_pos ⟨first, last⟩, ?_, ?_⟩
  · rw [isRfc3339Millis_iff, hfields]
    exact ⟨fits, real⟩
  · rw [dateParse_eq, hfields, hinstant]

theorem dateParse_range {text : String} (h : isRfc3339Millis text = true) :
    firstInstant ≤ dateParse text ∧ dateParse text ≤ lastInstant := by
  obtain ⟨fits, real⟩ := (isRfc3339Millis_iff text).mp h
  have hyear : (civilTime text).year < 10 ^ 4 := ofDigitChars_lt fits 0 4 rfl
  have hmonth := real.month
  have hday := real.day
  have hhour := real.hour
  have hminute := real.minute
  have hsecond := real.second
  have hmillisecond := real.millisecond
  have early : monthIndex (civilTime text) < 120000 := by
    unfold monthIndex
    omega
  have hstart := monthStart_strictMono.monotone (Nat.zero_le (monthIndex (civilTime text)))
  have hend := monthEnd_le early
  rw [real.index.1, real.index.2, monthStart_limit] at hend
  rw [monthStart_zero] at hstart
  rw [dateParse_eq]
  unfold instantOf firstInstant lastInstant
  rw [real.days]
  omega

theorem toISOString_dateParse {text : String} (h : isRfc3339Millis text = true) :
    toISOString (dateParse text) = some text := by
  obtain ⟨first, last⟩ := dateParse_range h
  obtain ⟨other, hother, hcanonical, hsame⟩ := toISOString_spec first last
  rw [hother, dateParse_injective hcanonical h hsame]

end

end JbChat.Delivery.InstantOrder
