import TaskBoard.Numeral
import TaskBoard.Text.Blank

/-!
# Calendar dates

Days of the proleptic Gregorian calendar.  A date is read from `year-month-day` with some
leniency: blanks may stand before each number, month and day may have one digit, and a year
with a sign may have any number of digits, one without a sign at most four.

It is written with at least four digits of the year, and with a sign when the year is
negative or beyond 9999.

    a date that is read is a day of the calendar                (isValid_of_ofCivil?)
-/

namespace TaskBoard

/-- A day: year, month and day of the month. -/
structure Date where
  year : Int
  month : Nat
  day : Nat
  deriving Repr, DecidableEq

namespace Date

/-- The years that dates are kept for. -/
def minYear : Int := -262143
def maxYear : Int := 262142

def isLeapYear (y : Int) : Bool := y % 4 = 0 && (y % 100 ≠ 0 || y % 400 = 0)

/-- The number of days of a month. -/
def daysInMonth (y : Int) (m : Nat) : Nat :=
  if m = 2 then (if isLeapYear y then 29 else 28)
  else if m = 4 ∨ m = 6 ∨ m = 9 ∨ m = 11 then 30
  else 31

/-- Whether a date is a day of the calendar, within the years that are kept. -/
def IsValid (d : Date) : Prop :=
  minYear ≤ d.year ∧ d.year ≤ maxYear ∧ 1 ≤ d.month ∧ d.month ≤ 12 ∧
    1 ≤ d.day ∧ d.day ≤ daysInMonth d.year d.month

instance (d : Date) : Decidable d.IsValid := by unfold IsValid; infer_instance

/-- The day of these numbers, if there is one. -/
def ofCivil? (y : Int) (m d : Nat) : Option Date :=
  if IsValid ⟨y, m, d⟩ then some ⟨y, m, d⟩ else none

/-- The number of days since 1970-01-01. -/
def toDayNumber (d : Date) : Int :=
  let y := if d.month ≤ 2 then d.year - 1 else d.year
  let era := y / 400
  let yearOfEra := y - era * 400
  let monthFromMarch : Int := (d.month + 9) % 12
  let dayOfYear := (153 * monthFromMarch + 2) / 5 + d.day - 1
  let dayOfEra := yearOfEra * 365 + yearOfEra / 4 - yearOfEra / 100 + dayOfYear
  era * 146097 + dayOfEra - 719468

/-- The day that comes the given number of days after 1970-01-01. -/
def ofDayNumber (n : Int) : Date :=
  let z := n + 719468
  let era := z / 146097
  let dayOfEra := z - era * 146097
  let yearOfEra := (dayOfEra - dayOfEra / 1460 + dayOfEra / 36524 - dayOfEra / 146096) / 365
  let dayOfYear := dayOfEra - (365 * yearOfEra + yearOfEra / 4 - yearOfEra / 100)
  let monthFromMarch := (5 * dayOfYear + 2) / 153
  let day := dayOfYear - (153 * monthFromMarch + 2) / 5 + 1
  let month := if monthFromMarch < 10 then monthFromMarch + 3 else monthFromMarch - 9
  let year := yearOfEra + era * 400
  ⟨if month ≤ 2 then year + 1 else year, month.toNat, day.toNat⟩

/-! ## Writing -/

/-- A year with four digits, or with a sign when it needs one. -/
def yearText (y : Int) : List Char :=
  if 0 ≤ y ∧ y ≤ 9999 then Numeral.padded 4 y.toNat
  else (if y < 0 then '-' else '+') :: Numeral.padded 4 y.natAbs

/-- A date as `YYYY-MM-DD`. -/
def render (d : Date) : List Char :=
  yearText d.year ++ '-' :: Numeral.padded 2 d.month ++ '-' :: Numeral.padded 2 d.day

def text (d : Date) : String := String.ofList d.render

/-! ## Reading -/

/-- The number of the first digits, at most `most` of them, and the rest; there must be at
least `least`. -/
def number? (least most : Nat) (cs : List Char) : Option (Nat × List Char) :=
  let ds := (cs.take most).takeWhile Numeral.isDigit
  if ds.length < least then none
  else (Numeral.readNat? ds).map fun n => (n, cs.drop ds.length)

/-- A year: with a sign any number of digits, without one at most four. -/
def year? (cs : List Char) : Option (Int × List Char) :=
  match cs with
  | '-' :: rest => (number? 1 rest.length rest).map fun (n, r) => (-(n : Int), r)
  | '+' :: rest => (number? 1 rest.length rest).map fun (n, r) => ((n : Int), r)
  | _ => (number? 1 4 cs).map fun (n, r) => ((n : Int), r)

/-- The text behind the expected character. -/
def expect? (c : Char) : List Char → Option (List Char)
  | d :: rest => if d = c then some rest else none
  | [] => none

/-- Reads `year-month-day`. -/
def read? (cs : List Char) : Option Date := do
  let (y, cs) ← year? (Text.trimLeft cs)
  let cs ← expect? '-' cs
  let (m, cs) ← number? 1 2 (Text.trimLeft cs)
  let cs ← expect? '-' cs
  let (d, cs) ← number? 1 2 (Text.trimLeft cs)
  if cs.isEmpty then ofCivil? y m d else none

/-! ## Lemmas -/

theorem isValid_of_ofCivil? {y : Int} {m d : Nat} {x : Date} (h : ofCivil? y m d = some x) :
    x.IsValid := by
  unfold ofCivil? at h
  split at h
  · next hv => cases h; exact hv
  · cases h

end Date

end TaskBoard
