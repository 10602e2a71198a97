import TaskBoard.Calendar.Date

/-!
# Points in time

A point in time with nanoseconds, counted from 1970-01-01T00:00:00Z.  It is read from an RFC
3339 text, whose date and time are local to the offset at its end, and written in UTC with
no, three, six or nine digits of the second.

The second 60 is the leap second behind second 59 and is held as a full second more than
fits the nanoseconds.

    the epoch is 1970-01-01T00:00:00Z                          (render_epoch)
-/

namespace TaskBoard

/-- Seconds since the start of 1970 in UTC and nanoseconds; from `10^9` nanoseconds on it is a
leap second. -/
structure Timestamp where
  seconds : Int
  nanos : Nat
  deriving Repr, DecidableEq

namespace Timestamp

/-- One second in nanoseconds. -/
def nanosPerSecond : Nat := 1000000000

/-! ## Reading -/

/-- A fraction of a second as nanoseconds; digits behind the ninth are skipped. -/
def fraction? (cs : List Char) : Option (Nat × List Char) := do
  let (n, rest) ← Date.number? 1 9 cs
  some (n * Numeral.tenTo (9 - (cs.length - rest.length)), rest.dropWhile Numeral.isDigit)

/-- An offset from UTC in minutes: `Z`, or a sign with hours and minutes. -/
def offset? (cs : List Char) : Option (Int × List Char) :=
  match cs with
  | [] => none
  | c :: rest =>
    if c = 'Z' ∨ c = 'z' then some (0, rest)
    else do
      let sign : Int ← if c = '+' then some 1 else if c = '-' ∨ c = '\u2212' then some (-1) else none
      let (h, rest) ← Date.number? 2 2 rest
      let rest ← Date.expect? ':' rest
      let (m, rest) ← Date.number? 2 2 rest
      if h < 24 ∧ m < 60 then some (sign * ((h : Int) * 60 + m), rest) else none

/-- A timestamp together with the day it falls on where its offset holds. -/
structure Local where
  day : Date
  instant : Timestamp
  deriving Repr, DecidableEq

/-- Reads an RFC 3339 timestamp; a blank may stand for the `T`. -/
def readLocal? (cs : List Char) : Option Local := do
  let (y, cs) ← Date.number? 4 4 cs
  let cs ← Date.expect? '-' cs
  let (mo, cs) ← Date.number? 2 2 cs
  let cs ← Date.expect? '-' cs
  let (d, cs) ← Date.number? 2 2 cs
  let cs ← match cs with
    | c :: rest => if c = 'T' ∨ c = 't' ∨ c = ' ' then some rest else none
    | [] => none
  let (h, cs) ← Date.number? 2 2 cs
  let cs ← Date.expect? ':' cs
  let (mi, cs) ← Date.number? 2 2 cs
  let cs ← Date.expect? ':' cs
  let (s, cs) ← Date.number? 2 2 cs
  let (nanos, cs) ← match cs with
    | '.' :: rest => fraction? rest
    | _ => some (0, cs)
  let (offset, cs) ← offset? cs
  let day ← Date.ofCivil? y mo d
  if cs.isEmpty ∧ h < 24 ∧ mi < 60 ∧ s ≤ 60 then
    let leap := if s = 60 then nanosPerSecond else 0
    let seconds := day.toDayNumber * 86400 + h * 3600 + mi * 60 + (min s 59 : Nat) - offset * 60
    some ⟨day, ⟨seconds, nanos + leap⟩⟩
  else none

/-- The point in time of an RFC 3339 timestamp. -/
def ofText? (s : String) : Option Timestamp := (readLocal? s.toList).map (·.instant)

/-! ## Writing -/

/-- The digits of the second behind the point, in groups of three. -/
def fractionText (nanos : Nat) : List Char :=
  if nanos = 0 then []
  else if nanos % 1000000 = 0 then '.' :: Numeral.padded 3 (nanos / 1000000)
  else if nanos % 1000 = 0 then '.' :: Numeral.padded 6 (nanos / 1000)
  else '.' :: Numeral.padded 9 nanos

/-- A timestamp in UTC. -/
def render (t : Timestamp) : List Char :=
  let day := t.seconds / 86400
  let time := (t.seconds % 86400).toNat
  let leap := nanosPerSecond ≤ t.nanos
  let second := time % 60 + if leap then 1 else 0
  (Date.ofDayNumber day).render ++ 'T' :: Numeral.padded 2 (time / 3600) ++
    ':' :: Numeral.padded 2 (time / 60 % 60) ++ ':' :: Numeral.padded 2 second ++
    fractionText (t.nanos % nanosPerSecond) ++ ['Z']

def text (t : Timestamp) : String := String.ofList t.render

/-! ## Lemmas -/

theorem render_epoch : text ⟨0, 0⟩ = "1970-01-01T00:00:00Z" := by decide +kernel

end Timestamp

end TaskBoard
