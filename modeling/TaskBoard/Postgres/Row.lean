import TaskBoard.Postgres.Statement

/-!
# Rows

What the database answers to a statement: rows of cells and a count.  A cell holds one value
or null; a row is read cell by cell, and a null where a value has to be, or a value of
another kind, makes it unreadable.

    a row without its number is unreadable                      (head?_null)
-/

namespace TaskBoard.Postgres

/-- A cell of a row. -/
inductive Cell
  | null
  | bool (b : Bool)
  | int (n : Int)
  | text (s : String)
  | date (d : Date)
  | time (t : Timestamp)
  | json (v : Json)
  | texts (ss : List String)

abbrev Row := List Cell

/-- What the database answers. -/
structure Answer where
  rows : List Row
  /-- How many rows the statement changed. -/
  affected : Nat
  /-- How long it took, in milliseconds. -/
  elapsed : Nat

namespace Cell

def bool? : Cell → Option Bool
  | .bool b => some b
  | _ => none

def int? : Cell → Option Int
  | .int n => some n
  | _ => none

def text? : Cell → Option String
  | .text s => some s
  | _ => none

def date? : Cell → Option Date
  | .date d => some d
  | _ => none

def time? : Cell → Option Timestamp
  | .time t => some t
  | _ => none

def json? : Cell → Option Json
  | .json v => some v
  | _ => none

def texts? : Cell → Option (List String)
  | .texts ss => some ss
  | _ => none

/-- A cell that may be null. -/
def orNull {α : Type} (read : Cell → Option α) : Cell → Option (Option α)
  | .null => some none
  | c => (read c).map some

end Cell

/-! ## Rows of each kind -/

/-- The values of a condition: a value that is no list stands for a list of one. -/
def valuesOf : Json → List Json
  | .array vs => vs
  | .null => []
  | v => [v]

/-- A row of one cell. -/
def single? {α : Type} (read : Cell → Option α) : Row → Option α
  | [c] => read c
  | _ => none

def filterRow? : Row → Option FilterRow
  | [id, name, logic, condition, kind, field, dateFrom, dateTo, operator, values, unit] => do
    some
      { filterId := ← id.int?
        name := ← name.text?
        logic := ← logic.text?
        conditionId := ← condition.orNull Cell.int?
        kind := ← kind.orNull Cell.text?
        field := ← field.orNull Cell.text?
        dateFrom := ← dateFrom.orNull Cell.text?
        dateTo := ← dateTo.orNull Cell.text?
        operator := ← operator.orNull Cell.text?
        values := (← values.orNull Cell.json?).map valuesOf
        unit := ← unit.orNull Cell.text? }
  | _ => none

def head? : Row → Option FilterHead
  | [id, user, workspace, name, viewMode, logic, isDefault, createdAt] => do
    some
      { id := ← id.int?
        user := ← user.text?
        workspace := ← workspace.text?
        name := ← name.text?
        viewMode := ← viewMode.orNull Cell.text?
        logic := ← logic.text?
        isDefault := ← isDefault.bool?
        createdAt := ← createdAt.time? }
  | _ => none

/-- A condition, and the filter that it belongs to. -/
def condition? : Row → Option (Int × SavedCondition)
  | [filter, id, kind, field, dateFrom, dateTo, operator, values, unit] => do
    let filter ← filter.int?
    let id ← id.int?
    let input : ConditionInput :=
      { kind := ← kind.text?
        field := ← field.orNull Cell.text?
        dateFrom := ← dateFrom.orNull Cell.text?
        dateTo := ← dateTo.orNull Cell.text?
        operator := ← operator.text?
        values := valuesOf (← values.json?)
        unit := ← unit.orNull Cell.text? }
    some (filter, ⟨id, input⟩)
  | _ => none

def task? : Row → Option Task
  | [id, workspace, title, description, status, priority, view, category, tag, startDate,
      dueDate, completedAt, createdAt, updatedAt, assignees] => do
    some
      { id := ← id.int?
        workspace := ← workspace.text?
        title := ← title.text?
        description := ← description.orNull Cell.text?
        status := ← status.text?
        priority := ← priority.orNull Cell.text?
        view := ← view.orNull Cell.text?
        category := ← category.orNull Cell.int?
        tag := ← tag.orNull Cell.int?
        startDate := ← startDate.orNull Cell.date?
        dueDate := ← dueDate.orNull Cell.date?
        completedAt := ← completedAt.orNull Cell.time?
        createdAt := ← createdAt.time?
        updatedAt := ← updatedAt.time?
        assignees := ← assignees.texts? }
  | _ => none

/-- The number and the time of a new filter. -/
def newFilter? : Row → Option (Int × Timestamp)
  | [id, createdAt] => do
    let id ← id.int?
    let createdAt ← createdAt.time?
    some (id, createdAt)
  | _ => none

/-! ## Replies -/

/-- A value that can be read. -/
def readable {α : Type} : Option α → Except DatabaseFault α
  | some a => .ok a
  | none => .error .undecodable

/-- All rows. -/
def readAll {α : Type} (read : Row → Option α) (a : Answer) : Except DatabaseFault (List α) :=
  readable (a.rows.mapM read)

/-- The first row, if there is one. -/
def readFirst {α : Type} (read : Row → Option α) (a : Answer) :
    Except DatabaseFault (Option α) :=
  match a.rows with
  | [] => .ok none
  | r :: _ => (readable (read r)).map some

/-- The reply that an answer of the database holds. -/
def Statement.reply (s : Statement) (a : Answer) : Except DatabaseFault s.Reply :=
  match s with
  | .ping => .ok ()
  | .isMember _ _ => readFirst (single? Cell.bool?) a
  | .tasks _ _ _ => readAll task? a
  | .countTasks _ _ => readFirst (single? Cell.int?) a
  | .rowsOf _ => readAll filterRow? a
  | .filtersOf _ _ => readAll head? a
  | .ownedAmong _ _ _ => readAll (single? Cell.int?) a
  | .filterAt _ _ _ => readFirst head? a
  | .conditionsOf _ => readAll condition? a
  | .clearDefault _ _ _ => .ok ()
  | .insertFilter _ _ _ => readFirst newFilter? a
  | .updateFilter _ _ _ _ => readFirst (single? Cell.time?) a
  | .deleteConditions _ => .ok ()
  | .insertCondition _ _ _ => readFirst (single? Cell.int?) a
  | .deleteFilter _ _ _ => .ok a.affected
  | .beginTransaction => .ok ()
  | .commit => .ok ()
  | .rollback => .ok ()
  | .hasVersions => readFirst (single? Cell.bool?) a
  | .readVersion => readFirst (single? Cell.int?) a
  | .createSchema => .ok ()
  | .insertSeeds => .ok ()
  | .recordVersion _ _ => .ok ()
  | .migrate _ => .ok a.elapsed
  | .recordMigration _ _ _ => .ok ()
  | .setVersion _ _ => .ok ()

/-! ## Lemmas -/

theorem head?_null (a b c d e f g : Cell) : head? [.null, a, b, c, d, e, f, g] = none := rfl

end TaskBoard.Postgres
