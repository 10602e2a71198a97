import TaskBoard.Text.Blank

/-!
# Fields of a task

The things that a condition can be about.  Most are columns of the task table, which hold a
text, a point in time or the number of another record.  Two are not: `today` is the day on
which the database answers, and `assignee` is a relation between tasks and users.

A field is named by a word of the request.  No other word is ever a field, so the words that
reach the SQL are those of this module alone.

    ofText f.name = f                                           (ofText_name)
-/

namespace TaskBoard

/-- A column that holds a text. -/
inductive TextColumn
  | status | priority | title | view
  deriving Repr, DecidableEq

/-- A column that holds a point in time. -/
inductive DateColumn
  | due | completed | created | modified | start
  deriving Repr, DecidableEq

/-- A column that holds the number of another record. -/
inductive IdColumn
  | category | tag
  deriving Repr, DecidableEq

/-- A column of the task table. -/
inductive Column
  | text (c : TextColumn)
  | date (c : DateColumn)
  | id (c : IdColumn)
  deriving Repr, DecidableEq

/-- Where a day comes from. -/
inductive DateSource
  | column (c : DateColumn)
  | today
  deriving Repr, DecidableEq

/-- What a condition is about. -/
inductive Field
  | column (c : Column)
  | today
  | assignee
  | unknown
  deriving Repr, DecidableEq

/-- How the values of a field are compared. -/
inductive FieldKind
  | text | date | id | relation | unknown
  deriving Repr, DecidableEq

/-! ## Names in the database -/

/-- The name under which a query knows the task table. -/
def taskAlias : String := "t"

def TextColumn.columnName : TextColumn → String
  | .status => "status"
  | .priority => "priority"
  | .title => "title"
  | .view => "view"

def DateColumn.columnName : DateColumn → String
  | .due => "due_date"
  | .completed => "completed_at"
  | .created => "created_at"
  | .modified => "updated_at"
  | .start => "start_date"

def IdColumn.columnName : IdColumn → String
  | .category => "category_id"
  | .tag => "tag_id"

def Column.columnName : Column → String
  | .text c => c.columnName
  | .date c => c.columnName
  | .id c => c.columnName

/-- A column as it is stored. -/
def Column.expression (c : Column) : String := taskAlias ++ "." ++ c.columnName

/-- The expression for the day of the query. -/
def todayExpression : String := "CURRENT_DATE"

/-- A point in time cut to its day. -/
def DateSource.expression : DateSource → String
  | .column c => (Column.date c).expression ++ "::date"
  | .today => todayExpression

namespace Field

/-- The column of a field, unless it is none. -/
def columnName? : Field → Option String
  | .column c => some c.columnName
  | _ => none

/-- The field as it is stored. -/
def expression? : Field → Option String
  | .column c => some c.expression
  | .today => some todayExpression
  | _ => none

/-- The field as the source of a day. -/
def date? : Field → Option DateSource
  | .column (.date c) => some (.column c)
  | .today => some .today
  | _ => none

def kind : Field → FieldKind
  | .column (.text _) => .text
  | .column (.date _) => .date
  | .column (.id _) => .id
  | .today => .date
  | .assignee => .relation
  | .unknown => .unknown

/-! ## Names in requests -/

def name : Field → String
  | .column (.text .status) => "status"
  | .column (.text .priority) => "priority"
  | .column (.text .title) => "title"
  | .column (.text .view) => "view"
  | .column (.date .due) => "due_date"
  | .column (.date .completed) => "completion_date"
  | .column (.date .created) => "created_date"
  | .column (.date .modified) => "last_modified"
  | .column (.date .start) => "start_date"
  | .column (.id .category) => "category"
  | .column (.id .tag) => "tag"
  | .today => "today"
  | .assignee => "assignee"
  | .unknown => "unsupported"

/-- Every field that has a name of its own. -/
def named : List Field :=
  [.column (.text .status), .column (.text .priority), .column (.text .title),
   .column (.text .view), .column (.date .due), .column (.date .completed),
   .column (.date .created), .column (.date .modified), .column (.date .start),
   .column (.id .category), .column (.id .tag), .today, .assignee]

/-- The field of this name; blanks around it do not count. -/
def ofText (s : String) : Field :=
  (named.find? fun f => f.name == Text.trimmed s).getD .unknown

end Field

def FieldKind.name : FieldKind → String
  | .text => "text"
  | .date => "date"
  | .id => "id"
  | .relation => "relation"
  | .unknown => "unsupported"

/-! ## Lemmas -/

theorem Field.mem_named (f : Field) : f ∈ Field.named ↔ f ≠ .unknown := by
  rcases f with (_ | _ | _) | _ | _ | _ <;> (try rename_i c; cases c) <;> decide

theorem Field.ofText_name (f : Field) : Field.ofText f.name = f := by
  rcases f with (_ | _ | _) | _ | _ | _ <;> (try rename_i c; cases c) <;> decide +kernel

/-- Exactly the fields with a day can be compared with one. -/
theorem Field.date?_isSome_iff (f : Field) : f.date?.isSome ↔ f.kind = .date := by
  rcases f with (_ | _ | _) | _ | _ | _ <;> simp [Field.date?, Field.kind]

end TaskBoard
