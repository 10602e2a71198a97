import TaskBoard.Filter.Condition
import TaskBoard.Filter.Match
import TaskBoard.Filter.Overrides

/-!
# Tests

A condition that makes sense is a test of a task.  A condition of which a word is unknown,
the number of values is wrong or a value cannot be read has no test, and is dropped.

Each test has a template: its SQL with the values in their places.  Only names of columns
and fixed words stand in the SQL itself.

    (ofCondition? s c).isSome = false when c.kind = unknown     (ofCondition?_unknown)
-/

namespace TaskBoard

/-- The users that an assignment is looked for. -/
inductive Assignee
  | anyone
  | user (u : String)
  | oneOf (us : List String)
  deriving Repr, DecidableEq

/-- A test of one task. -/
inductive Test
  /-- The column holds nothing, or something. -/
  | null (c : Column) (yes : Bool)
  | text (c : TextColumn) (m : Match String)
  | id (c : IdColumn) (m : Match Int)
  | date (d : DateSource) (m : Match Date)
  /-- The number of days from one day to another. -/
  | dayDiff (earlier later : DateSource) (m : Match Int)
  /-- The task is assigned to such a user, or it is not. -/
  | assigned (yes : Bool) (who : Assignee)
  deriving Repr, DecidableEq

/-- What a test depends on besides its condition: the user who asks, the name of the filter
and the overrides of the request. -/
structure Scope where
  user : String
  filterName : String
  overrides : Overrides

namespace Test

/-! ## Reading conditions -/

/-- Whether the operator asks for a column that holds nothing; such a test has no values. -/
def nullTest? : Operator → List Json → Option Bool
  | .null, [] => some true
  | .notNull, [] => some false
  | _, _ => none

def ofColumn? (c : Column) (op : Operator) (values : List Json) : Option Test :=
  match nullTest? op values with
  | some yes => some (.null c yes)
  | none =>
    match c with
    | .text c => (Match.ofValues? Literal.text? op values).map (.text c)
    | .id c => (Match.ofValues? Literal.id? op values).map (.id c)
    | .date c => (Match.ofValues? Literal.date? op values).map (.date (.column c))

/-- A test of the relation between tasks and users; it knows no order. -/
def ofAssignee? (asking : String) : Operator → List Json → Option Test
  | .null, [] => some (.assigned false .anyone)
  | .notNull, [] => some (.assigned true .anyone)
  | .compare .eq, [v] => (Literal.user? asking v).map fun u => .assigned true (.user u)
  | .compare .ne, [v] => (Literal.user? asking v).map fun u => .assigned false (.user u)
  | .oneOf, v :: vs =>
    ((v :: vs).mapM (Literal.user? asking)).map fun us => .assigned true (.oneOf us)
  | _, _ => none

def ofList? (s : Scope) (c : Condition) : Option Test :=
  match c.field with
  | .column col => ofColumn? col c.operator c.values
  | .today => (Match.ofValues? Literal.date? c.operator c.values).map (.date .today)
  | .assignee => ofAssignee? s.user c.operator c.values
  | .unknown => none

/-- A number of days given in a unit. -/
def daysIn? (u : DayUnit) (v : Json) : Option Int :=
  (Literal.days? v).bind fun n => Numeral.int64? (n * u.length)

/-- The match of a difference.  An override is in days already, and stands for whatever
values the comparison has. -/
def ofDays? (override : Option Int) (u : DayUnit) (op : Operator) (values : List Json) :
    Option (Match Int) :=
  match op, override with
  | .compare c, some days => some (.compare c days)
  | .compare _, none => Match.ofValues? (daysIn? u) op values
  | .between, _ => Match.ofValues? (daysIn? u) op values
  | _, _ => none

def ofDateDiff? (s : Scope) (c : Condition) : Option Test := do
  let earlier ← c.dateFrom.bind Field.date?
  let later ← c.dateTo.bind Field.date?
  let u ← DayUnit.ofText? c.unit
  let m ← ofDays? (s.overrides.find? s.filterName) u c.operator c.values
  some (.dayDiff earlier later m)

/-- A range is what it is without an operator, too. -/
def ofDateRange? (c : Condition) : Option Test := do
  let op ← match c.operator with
    | .between | .unknown => some Operator.between
    | _ => none
  let d ← c.field.date?
  let m ← Match.ofValues? Literal.date? op c.values
  some (.date d m)

/-- The test that a condition stands for. -/
def ofCondition? (s : Scope) (c : Condition) : Option Test :=
  match c.kind with
  | .list => ofList? s c
  | .dateDiff => ofDateDiff? s c
  | .dateRange => ofDateRange? c
  | .unknown => none

/-! ## SQL -/

/-- The rows that assign a task to users. -/
def assignments : String :=
  "SELECT 1 FROM task_assignees ta WHERE ta.task_id = " ++ taskAlias ++ ".id"

def assigneeTemplate : Assignee → Sql.Template
  | .anyone => []
  | .user u => [.lit " AND ta.user_id = ", .hole (.scalar (.text u))]
  | .oneOf us => [.lit " AND ta.user_id = ANY(", .hole (.series (.texts us)), .lit ")"]

/-- The expression for the days from one day to another. -/
def dayDiffExpression (earlier later : DateSource) : String :=
  "(" ++ later.expression ++ " - " ++ earlier.expression ++ ")"

/-- A test in SQL. -/
def template : Test → Sql.Template
  | .null c yes => [.lit (c.expression ++ if yes then " IS NULL" else " IS NOT NULL")]
  | .text c m => m.template Match.textBinding (Column.text c).expression
  | .id c m => m.template Match.idBinding (Column.id c).expression
  | .date d m => m.template Match.dateBinding d.expression
  | .dayDiff earlier later m => m.template Match.idBinding (dayDiffExpression earlier later)
  | .assigned yes who =>
    .lit ((if yes then "" else "NOT ") ++ "EXISTS (" ++ assignments) ::
      assigneeTemplate who ++ [.lit ")"]

/-! ## Lemmas -/

theorem ofCondition?_unknown (s : Scope) {c : Condition} (h : c.kind = .unknown) :
    ofCondition? s c = none := by
  simp [ofCondition?, h]

end Test

end TaskBoard
