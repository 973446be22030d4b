/- source: src/production/delivery/valueObjects.ts
   digest: Canonical UTC instants as texts, and the milliseconds they denote. -/

import JbChat.Delivery.ValueObjects

set_option autoImplicit false

namespace JbChat.Delivery.Instants

open ValueObjects

/-- `/^\d{4}-\d{2}-\d{2}T\d{2}:\d{2}:\d{2}\.\d{3}Z$/` -/
def rfc3339Tests : List (Char → Bool) :=
  List.replicate 4 Char.isDigit ++ [(· == '-')] ++ List.replicate 2 Char.isDigit ++ [(· == '-')] ++
    List.replicate 2 Char.isDigit ++ [(· == 'T')] ++ List.replicate 2 Char.isDigit ++
    [(· == ':')] ++ List.replicate 2 Char.isDigit ++ [(· == ':')] ++
    List.replicate 2 Char.isDigit ++ [(· == '.')] ++ List.replicate 3 Char.isDigit ++ [(· == 'Z')]

/-- The number at some digits of the text. -/
def digitsAt (text : String) (start count : Nat) : Nat :=
  Nat.ofDigitChars 10 ((text.toList.drop start).take count) 0

/-- The fields of a text in the canonical format. -/
structure CivilTime where
  year : Nat
  month : Nat
  day : Nat
  hour : Nat
  minute : Nat
  second : Nat
  millisecond : Nat

def civilTime (text : String) : CivilTime where
  year := digitsAt text 0 4
  month := digitsAt text 5 2
  day := digitsAt text 8 2
  hour := digitsAt text 11 2
  minute := digitsAt text 14 2
  second := digitsAt text 17 2
  millisecond := digitsAt text 20 3

def isLeapYear (year : Nat) : Bool :=
  year % 4 = 0 && (year % 100 ≠ 0 || year % 400 = 0)

def daysInMonth (year month : Nat) : Nat :=
  if month = 2 then if isLeapYear year then 29 else 28
  else if month = 4 ∨ month = 6 ∨ month = 9 ∨ month = 11 then 30
  else 31

/-- The proleptic Gregorian day number, counted from the epoch. -/
def daysFromCivil (year month day : Nat) : Int :=
  let y : Int := if month ≤ 2 then (year : Int) - 1 else year
  let era := y / 400
  let yearOfEra := y - era * 400
  let dayOfYear : Int := ((153 * ((month + 9) % 12) + 2) / 5 + day : Nat) - 1
  let dayOfEra := yearOfEra * 365 + yearOfEra / 4 - yearOfEra / 100 + dayOfYear
  era * 146097 + dayOfEra - 719468

/-- `Date.parse` on a canonical text. -/
def dateParse (text : String) : Int :=
  let t := civilTime text
  ((daysFromCivil t.year t.month t.day * 24 + t.hour) * 60 + t.minute) * 60000 +
    t.second * 1000 + t.millisecond

/-- The text names a real instant, so that it is its own `toISOString`. -/
def isRealInstant (text : String) : Bool :=
  let t := civilTime text
  1 ≤ t.month && t.month ≤ 12 && 1 ≤ t.day && t.day ≤ daysInMonth t.year t.month &&
    t.hour ≤ 23 && t.minute ≤ 59 && t.second ≤ 59

def isRfc3339Millis (text : String) : Bool :=
  matchesEach rfc3339Tests text.toList && isRealInstant text

def parseRfc3339Millis (value label : String) : Except Failure String :=
  if ¬ matchesEach rfc3339Tests value.toList then
    .error (.invalid (label ++ " must be UTC RFC 3339 with exactly milliseconds."))
  else if ¬ isRealInstant value then
    .error (.invalid (label ++ " must be a real canonical UTC instant."))
  else .ok value

theorem parseRfc3339Millis_eq_ok {value label parsed : String} :
    parseRfc3339Millis value label = .ok parsed ↔ isRfc3339Millis value = true ∧ parsed = value := by
  unfold parseRfc3339Millis isRfc3339Millis
  by_cases hformat : matchesEach rfc3339Tests value.toList = true
  · by_cases hreal : isRealInstant value = true
    · simp [hformat, hreal, eq_comm]
    · simp [hformat, hreal]
  · simp [hformat]

theorem isRfc3339Millis_length {text : String} (h : isRfc3339Millis text = true) :
    text.toList.length = 24 := by
  unfold isRfc3339Millis at h
  rw [Bool.and_eq_true] at h
  exact matchesEach_length h.1

/-- The epoch is the instant zero. -/
example : dateParse "1970-01-01T00:00:00.000Z" = 0 := by decide +kernel

/-- The last millisecond of a leap year. -/
example : dateParse "2024-12-31T23:59:59.999Z" = 1735689599999 := by decide +kernel

end JbChat.Delivery.Instants
