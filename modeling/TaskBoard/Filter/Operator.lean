import TaskBoard.Text.Blank

/-!
# Operators, logic, kinds and units

The other words of a condition, each with the spellings under which it is known.  Operators
and logic are known in capitals and in small letters alike; what is not known is kept as
such, and a condition that needs it is dropped later.

    Operator.ofText op.name = op                                (Operator.ofText_name)
-/

namespace TaskBoard

/-- A comparison of two values. -/
inductive Comparison
  | eq | ne | lt | le | gt | ge
  deriving Repr, DecidableEq

/-- How a condition tests its field. -/
inductive Operator
  | compare (c : Comparison)
  | oneOf
  | null
  | notNull
  | between
  | unknown
  deriving Repr, DecidableEq

/-- How the conditions of one filter are joined. -/
inductive Logic
  | and | or
  deriving Repr, DecidableEq

/-- The three kinds of conditions, and all others. -/
inductive ConditionKind
  | list | dateDiff | dateRange | unknown
  deriving Repr, DecidableEq

/-- The unit of a number of days. -/
inductive DayUnit
  | days | weeks
  deriving Repr, DecidableEq

/-! ## Operators -/

def Comparison.symbol : Comparison → String
  | .eq => "="
  | .ne => "!="
  | .lt => "<"
  | .le => "<="
  | .gt => ">"
  | .ge => ">="

/-- The comparison of an operator, if it compares with one value. -/
def Operator.comparison? : Operator → Option Comparison
  | .compare c => some c
  | _ => none

def Operator.name : Operator → String
  | .compare c => c.symbol
  | .oneOf => "IN"
  | .null => "IS_NULL"
  | .notNull => "IS_NOT_NULL"
  | .between => "BETWEEN"
  | .unknown => "UNSUPPORTED"

/-- Every spelling of an operator, in capitals. -/
def Operator.spellings : List (String × Operator) :=
  [("=", .compare .eq), ("==", .compare .eq), ("!=", .compare .ne), ("<>", .compare .ne),
   ("IN", .oneOf), ("IS_NULL", .null), ("IS NULL", .null), ("IS_NOT_NULL", .notNull),
   ("IS NOT NULL", .notNull), ("<", .compare .lt), ("<=", .compare .le), (">", .compare .gt),
   (">=", .compare .ge), ("BETWEEN", .between)]

/-- A text without the blanks around it, in capitals as far as it is ASCII. -/
def inCapitals (s : String) : String := String.ofList (Text.asciiUpper (Text.trim s.toList))

def Operator.ofText (s : String) : Operator := (spellings.lookup (inCapitals s)).getD .unknown

/-! ## Logic -/

def Logic.name : Logic → String
  | .and => "AND"
  | .or => "OR"

/-- What stands between two conditions. -/
def Logic.joiner : Logic → String
  | .and => " AND "
  | .or => " OR "

/-- Only `or` widens a filter; every other word joins by `and`. -/
def Logic.ofText (s : String) : Logic := if inCapitals s = "OR" then .or else .and

/-! ## Kinds and units -/

def ConditionKind.name : ConditionKind → String
  | .list => "list"
  | .dateDiff => "date_diff"
  | .dateRange => "date_range"
  | .unknown => "unsupported"

def ConditionKind.named : List ConditionKind := [.list, .dateDiff, .dateRange]

def ConditionKind.ofText (s : String) : ConditionKind :=
  (named.find? fun k => k.name == Text.trimmed s).getD .unknown

def DayUnit.name : DayUnit → String
  | .days => "days"
  | .weeks => "weeks"

/-- The length of a unit in days. -/
def DayUnit.length : DayUnit → Int
  | .days => 1
  | .weeks => 7

/-- Every spelling of a unit, in small letters; no unit at all means days. -/
def DayUnit.spellings : List (String × DayUnit) :=
  [("", .days), ("day", .days), ("days", .days), ("week", .weeks), ("weeks", .weeks)]

def DayUnit.ofText? : Option String → Option DayUnit
  | none => some .days
  | some s => spellings.lookup (String.ofList (Text.asciiLower (Text.trim s.toList)))

/-! ## Lemmas -/

theorem Operator.ofText_name (op : Operator) : Operator.ofText op.name = op := by
  rcases op with c | _ | _ | _ | _ | _ <;> (try cases c) <;> decide +kernel

theorem Logic.ofText_name (l : Logic) : Logic.ofText l.name = l := by
  cases l <;> decide +kernel

theorem ConditionKind.ofText_name (k : ConditionKind) : ConditionKind.ofText k.name = k := by
  cases k <;> decide +kernel

theorem DayUnit.ofText?_name (u : DayUnit) : DayUnit.ofText? (some u.name) = some u := by
  cases u <;> decide +kernel

end TaskBoard
