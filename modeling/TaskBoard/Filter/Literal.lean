import TaskBoard.Calendar.Timestamp
import TaskBoard.Json.Basic

/-!
# Literals

How the JSON values of a condition are read.  A text is a string, a number as written in
decimal, or `true` or `false`.  A number of another record or of days may also be a string
of digits; a number of days may be a double without a fraction.  A date is a string that
holds a calendar date or a timestamp, of which the local day counts.

    a number of days that is read fits 64 bits                  (days?_eq_some_bounds)
-/

namespace TaskBoard.Literal

/-- The word that stands for the user who asks. -/
def currentUser : String := "current_user_id"

def text? : Json → Option String
  | .string s => some s
  | .number n => some n.text
  | .bool b => some (if b then "true" else "false")
  | _ => none

/-- The number of a record. -/
def id? : Json → Option Int
  | .number n => n.int64?
  | .string s => Numeral.readInt64? (Text.trim s.toList)
  | _ => none

/-- The bound below which a double is taken for a number of days. -/
def daysLimit : Int := 9223372036854775808

/-- The value of a double without a fraction. -/
def wholeDays? (x : Double) : Option Int :=
  x.toInt?.filter fun n => -daysLimit < n && n < daysLimit

/-- The number of days that a number gives.  An integer beyond 64 signed bits is compared as
the double nearest to it, which is never small enough. -/
def days? : Json → Option Int
  | .number (.int n) => Numeral.int64? n
  | .number (.double x) => wholeDays? x
  | .string s => Numeral.readInt64? (Text.trim s.toList)
  | _ => none

/-- The calendar date of a text, or the local day of a timestamp. -/
def dateOfText? (cs : List Char) : Option Date :=
  Date.read? cs <|> (Timestamp.readLocal? cs).map (·.day)

def date? : Json → Option Date
  | .string s => dateOfText? (Text.trim s.toList)
  | _ => none

/-- The user that a value names; one word stands for the user who asks. -/
def user? (asking : String) : Json → Option String
  | .string s =>
    if s = currentUser then some asking
    else if Text.allBlank s then none
    else some s
  | .number n => some n.text
  | _ => none

/-! ## Lemmas -/

theorem user?_currentUser (asking : String) : user? asking (.string currentUser) = some asking := by
  simp [user?]

theorem days?_eq_some_bounds {v : Json} {n : Int} (h : days? v = some n) :
    -daysLimit ≤ n ∧ n < daysLimit := by
  have bounds : ∀ {m k : Int}, Numeral.int64? m = some k → -daysLimit ≤ k ∧ k < daysLimit := by
    intro m k hk
    simp only [Numeral.int64?] at hk
    split at hk
    · next hm => cases hk; simp only [Numeral.minInt64, Numeral.maxInt64, daysLimit] at *; omega
    · cases hk
  cases v with
  | number x =>
    cases x with
    | int m => exact bounds h
    | double x =>
      simp only [days?, wholeDays?, Option.filter_eq_some_iff] at h
      simp only [Bool.and_eq_true, decide_eq_true_eq] at h
      omega
  | string s =>
    simp only [days?, Numeral.readInt64?, Option.bind_eq_some_iff] at h
    obtain ⟨m, -, hm⟩ := h
    exact bounds hm
  | _ => cases h

end TaskBoard.Literal
