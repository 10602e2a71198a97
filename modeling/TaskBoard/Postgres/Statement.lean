import TaskBoard.Postgres.Schema
import TaskBoard.Storage.Call

/-!
# Statements

Everything that is asked of the database, each with its SQL text, the values of its
placeholders, and the kind of its reply.  A statement is one step: the database does all of
it or refuses it.

    statements without placeholders have no arguments           (arguments_commit)
-/

namespace TaskBoard.Postgres

/-- A statement. -/
inductive Statement
  /-- Does nothing, but needs a connection. -/
  | ping
  | isMember (workspace user : String)
  /-- One page of the tasks that pass a filter, and the number of all of them. -/
  | tasks (workspace : String) (filter : CompiledFilter) (page : Page)
  | countTasks (workspace : String) (filter : CompiledFilter)
  /-- The rows of the filters, whoever owns them. -/
  | rowsOf (ids : List Int)
  | filtersOf (workspace user : String)
  /-- Which of the filters belong to the user. -/
  | ownedAmong (workspace user : String) (ids : List Int)
  | filterAt (workspace user : String) (id : Int)
  | conditionsOf (ids : List Int)
  /-- The owner's default filter is no default any more, unless it is the one to keep. -/
  | clearDefault (workspace user : String) (keep : Option Int)
  | insertFilter (workspace user : String) (input : FilterInput)
  | updateFilter (workspace user : String) (id : Int) (input : FilterInput)
  | deleteConditions (filter : Int)
  | insertCondition (filter : Int) (position : Nat) (input : ConditionInput)
  | deleteFilter (workspace user : String) (id : Int)
  /-- The bounds of a transaction. -/
  | beginTransaction
  | commit
  | rollback
  /-- Whether versions are kept, and the version that is. -/
  | hasVersions
  | readVersion
  | createSchema
  | insertSeeds
  /-- The version of a new schema, and the time. -/
  | recordVersion (version now : Int)
  | migrate (m : Migration)
  /-- A migration that has been done, the time, and how long it took in milliseconds. -/
  | recordMigration (m : Migration) (now : Int) (elapsed : Nat)
  | setVersion (version now : Int)

/-- What a statement gives.  Of a statement that is asked for one row only the first row
counts.  A deletion gives the number of rows that are gone, and a migration the time that it
took, in milliseconds. -/
def Statement.Reply : Statement → Type
  | .ping => Unit
  | .isMember _ _ => Option Bool
  | .tasks _ _ _ => List Task
  | .countTasks _ _ => Option Int
  | .rowsOf _ => List FilterRow
  | .filtersOf _ _ => List FilterHead
  | .ownedAmong _ _ _ => List Int
  | .filterAt _ _ _ => Option FilterHead
  | .conditionsOf _ => List (Int × SavedCondition)
  | .clearDefault _ _ _ => Unit
  | .insertFilter _ _ _ => Option (Int × Timestamp)
  | .updateFilter _ _ _ _ => Option Timestamp
  | .deleteConditions _ => Unit
  | .insertCondition _ _ _ => Option Int
  | .deleteFilter _ _ _ => Nat
  | .beginTransaction => Unit
  | .commit => Unit
  | .rollback => Unit
  | .hasVersions => Option Bool
  | .readVersion => Option Int
  | .createSchema => Unit
  | .insertSeeds => Unit
  | .recordVersion _ _ => Unit
  | .migrate _ => Nat
  | .recordMigration _ _ _ => Unit
  | .setVersion _ _ => Unit

/-! ## Arguments -/

/-- A value of a placeholder. -/
inductive Argument
  | null
  | bool (b : Bool)
  | int (n : Int)
  | text (s : String)
  | ints (ns : List Int)
  | texts (ss : List String)
  | json (v : Json)
  /-- A point in time, in seconds. -/
  | time (seconds : Int)
  /-- A length of time, in milliseconds. -/
  | duration (ms : Nat)

def Argument.ofText? (s : Option String) : Argument := s.elim .null .text

def Argument.ofValue : Sql.Value → Argument
  | .scalar (.text s) => .text s
  | .scalar (.bigint n) => .int n
  | .series (.texts ss) => .texts ss
  | .series (.bigints ns) => .ints ns

/-- The workspace, and then the values of the filter. -/
def filterArguments (workspace : String) (filter : CompiledFilter) : List Argument :=
  .text workspace :: filter.values.map .ofValue

/-- The values of the placeholders `$1`, `$2`, and so on; none for text that is sent as it
is. -/
def Statement.arguments : Statement → Option (List Argument)
  | .ping => some []
  | .isMember workspace user => some [.text workspace, .text user]
  | .tasks workspace filter page =>
    some (filterArguments workspace filter ++ [.int page.limit, .int page.offset])
  | .countTasks workspace filter => some (filterArguments workspace filter)
  | .rowsOf ids => some [.ints ids]
  | .filtersOf workspace user => some [.text workspace, .text user]
  | .ownedAmong workspace user ids => some [.ints ids, .text workspace, .text user]
  | .filterAt workspace user id => some [.int id, .text workspace, .text user]
  | .conditionsOf ids => some [.ints ids]
  | .clearDefault workspace user keep =>
    some [.text workspace, .text user, keep.elim .null .int]
  | .insertFilter workspace user input =>
    some [.text user, .text workspace, .text input.name, .ofText? input.viewMode,
      .text input.logic, .bool input.isDefault]
  | .updateFilter workspace user id input =>
    some [.text input.name, .ofText? input.viewMode, .text input.logic, .bool input.isDefault,
      .int id, .text workspace, .text user]
  | .deleteConditions filter => some [.int filter]
  | .insertCondition filter position input =>
    some [.int filter, .int position, .text input.kind, .ofText? input.field,
      .ofText? input.dateFrom, .ofText? input.dateTo, .text input.operator,
      .json (.array input.values), .ofText? input.unit]
  | .deleteFilter workspace user id => some [.int id, .text workspace, .text user]
  | .hasVersions => some []
  | .readVersion => some []
  | .recordVersion version now => some [.int version, .time now]
  | .recordMigration m now elapsed =>
    some [.int m.version, .text m.name, .time now, .text m.checksum, .duration elapsed]
  | .setVersion version now => some [.int version, .time now]
  | .beginTransaction => none
  | .commit => none
  | .rollback => none
  | .createSchema => none
  | .insertSeeds => none
  | .migrate _ => none

/-! ## Text -/

/-- The tasks of the workspace `$1` that pass the filter. -/
def whereText (filter : CompiledFilter) : String :=
  match filter.predicate with
  | some p => "t.workspace_id = $1 AND (" ++ p ++ ")"
  | none => "t.workspace_id = $1"

def taskColumns : String :=
  "t.id, t.workspace_id, t.title, t.description, t.status, t.priority, t.view, t.category_id, " ++
  "t.tag_id, t.start_date, t.due_date, t.completed_at, t.created_at, t.updated_at, " ++
  "ARRAY(SELECT ta.user_id FROM task_assignees ta WHERE ta.task_id = t.id " ++
  "ORDER BY ta.user_id) AS assignees"

def filterColumns : String :=
  "id, user_id, workspace_id, name, view_mode, operator, is_default, created_at"

/-- The filter `$n` of an owner. -/
def ownedText : String := "id = $1 AND workspace_id = $2 AND user_id = $3"

/-- The SQL text of a statement. -/
def Statement.sql : Statement → String
  | .ping => "SELECT 1"
  | .isMember _ _ =>
    "SELECT EXISTS (SELECT 1 FROM workspace_members WHERE workspace_id = $1 AND user_id = $2)"
  | .tasks _ filter _ =>
    "SELECT " ++ taskColumns ++ " FROM tasks t WHERE " ++ whereText filter ++
      " ORDER BY t.created_at DESC, t.id DESC LIMIT " ++ Sql.token filter.next ++ " OFFSET " ++
      Sql.token (filter.next + 1)
  | .countTasks _ filter => "SELECT COUNT(*) FROM tasks t WHERE " ++ whereText filter
  | .rowsOf _ =>
    "SELECT f.id, f.name, f.operator, c.id, c.kind, c.field, c.date_from, c.date_to, " ++
    "c.operator, c.\"values\", c.unit FROM filters f " ++
    "LEFT JOIN filter_conditions c ON c.filter_id = f.id WHERE f.id = ANY($1) " ++
    "ORDER BY f.id, c.position, c.id"
  | .filtersOf _ _ =>
    "SELECT " ++ filterColumns ++
      " FROM filters WHERE workspace_id = $1 AND user_id = $2 ORDER BY created_at, id"
  | .ownedAmong _ _ _ =>
    "SELECT id FROM filters WHERE id = ANY($1) AND workspace_id = $2 AND user_id = $3"
  | .filterAt _ _ _ => "SELECT " ++ filterColumns ++ " FROM filters WHERE " ++ ownedText
  | .conditionsOf _ =>
    "SELECT filter_id, id, kind, field, date_from, date_to, operator, \"values\", unit " ++
    "FROM filter_conditions WHERE filter_id = ANY($1) ORDER BY filter_id, position, id"
  | .clearDefault _ _ _ =>
    "UPDATE filters SET is_default = FALSE WHERE workspace_id = $1 AND user_id = $2 " ++
    "AND is_default AND ($3::BIGINT IS NULL OR id <> $3)"
  | .insertFilter _ _ _ =>
    "INSERT INTO filters (user_id, workspace_id, name, view_mode, operator, is_default) " ++
    "VALUES ($1, $2, $3, $4, $5, $6) RETURNING id, created_at"
  | .updateFilter _ _ _ _ =>
    "UPDATE filters SET name = $1, view_mode = $2, operator = $3, is_default = $4 " ++
    "WHERE id = $5 AND workspace_id = $6 AND user_id = $7 RETURNING created_at"
  | .deleteConditions _ => "DELETE FROM filter_conditions WHERE filter_id = $1"
  | .insertCondition _ _ _ =>
    "INSERT INTO filter_conditions " ++
    "(filter_id, position, kind, field, date_from, date_to, operator, \"values\", unit) " ++
    "VALUES ($1, $2, $3, $4, $5, $6, $7, $8, $9) RETURNING id"
  | .deleteFilter _ _ _ => "DELETE FROM filters WHERE " ++ ownedText
  | .beginTransaction => "BEGIN"
  | .commit => "COMMIT"
  | .rollback => "ROLLBACK"
  | .hasVersions =>
    "SELECT EXISTS ( SELECT FROM information_schema.tables WHERE table_schema = 'public' " ++
    "AND table_name = 'schema_version' )"
  | .readVersion => "SELECT version FROM schema_version WHERE id = 1"
  | .createSchema => Schema.sql
  | .insertSeeds => Schema.seedSql
  | .recordVersion _ _ =>
    "INSERT INTO schema_version (id, version, applied_at, description) " ++
    "VALUES (1, $1, $2, 'Initial schema') " ++
    "ON CONFLICT (id) DO UPDATE SET version = $1, applied_at = $2"
  | .migrate m => m.sql
  | .recordMigration _ _ _ =>
    "INSERT INTO schema_migrations " ++
    "(version, name, applied_at, checksum, execution_time_ms, success) " ++
    "VALUES ($1, $2, $3, $4, $5, TRUE)"
  | .setVersion _ _ => "UPDATE schema_version SET version = $1, applied_at = $2 WHERE id = 1"

/-! ## Lemmas -/

theorem arguments_commit : Statement.commit.arguments = none := rfl

end TaskBoard.Postgres
