import TaskBoard.Digest.SipHash
import TaskBoard.Text.Utf8

/-!
# The schema of the database

The tables with their indexes, the rows that a new database starts with, and the migrations
that bring an older database up to date.  The schema has a version: a new database gets all
of it at once, and every later version has a migration of its own.

    there is a migration for every version after the first      (migration?_isSome)
-/

namespace TaskBoard.Postgres

/-- A table with its columns and constraints, or an index. -/
inductive SchemaItem
  | table (name : String) (lines : List String)
  | index (name target : String)
  deriving Repr, DecidableEq

/-- Tables and indexes that belong together. -/
structure SchemaPart where
  title : String
  items : List SchemaItem
  deriving Repr, DecidableEq

/-- A row that is put into a new database unless its key is there. -/
structure Seed where
  title : String
  table : String
  columns : String
  values : String
  key : String
  deriving Repr, DecidableEq

/-- A step from the version before to this one. -/
structure Migration where
  version : Int
  name : String
  sql : String
  deriving Repr, DecidableEq

/-! ## Text -/

def SchemaItem.sql : SchemaItem → String
  | .table name lines =>
    "CREATE TABLE IF NOT EXISTS " ++ name ++ " (\n    " ++ ",\n    ".intercalate lines ++ "\n);"
  | .index name target => "CREATE INDEX IF NOT EXISTS " ++ name ++ " ON " ++ target ++ ";"

/-- A line between the title of a part and the rest. -/
def rule : String :=
  "-- ============================================================================="

def SchemaPart.sql (p : SchemaPart) : String :=
  "\n".intercalate (rule :: ("-- " ++ p.title) :: rule :: p.items.map SchemaItem.sql)

def Seed.sql (s : Seed) : String :=
  "-- " ++ s.title ++ "\nINSERT INTO " ++ s.table ++ " (" ++ s.columns ++ ")\nVALUES (" ++
    s.values ++ ")\nON CONFLICT (" ++ s.key ++ ") DO NOTHING;"

/-- A digest of the SQL of a migration, by which a changed one is noticed.  A byte that is in
no text ends the text. -/
def Migration.checksum (m : Migration) : String := SipHash.text (Utf8.bytes m.sql ++ [0xff])

/-! ## Contents -/

namespace Schema

def versions : SchemaPart where
  title := "Infrastructure: Schema version tracking"
  items :=
    [.table "schema_version"
      ["id INTEGER PRIMARY KEY CHECK (id = 1)",
       "version INTEGER NOT NULL",
       "applied_at BIGINT NOT NULL",
       "description TEXT"],
     .table "schema_migrations"
      ["version INTEGER PRIMARY KEY",
       "name TEXT NOT NULL",
       "applied_at BIGINT NOT NULL",
       "checksum TEXT NOT NULL",
       "execution_time_ms INTEGER",
       "success BOOLEAN NOT NULL DEFAULT TRUE"]]

def users : SchemaPart where
  title := "1. Users"
  items :=
    [.table "users"
      ["id TEXT PRIMARY KEY",
       "email TEXT UNIQUE CHECK(email IS NULL OR length(email) >= 3)",
       "display_name TEXT CHECK(display_name IS NULL OR length(display_name) <= 100)",
       "created_at TIMESTAMPTZ NOT NULL DEFAULT NOW()"]]

def workspaces : SchemaPart where
  title := "2. Workspaces and membership"
  items :=
    [.table "workspaces"
      ["id TEXT PRIMARY KEY",
       "name TEXT NOT NULL CHECK(length(name) >= 1 AND length(name) <= 100)",
       "created_at TIMESTAMPTZ NOT NULL DEFAULT NOW()"],
     .table "workspace_members"
      ["workspace_id TEXT NOT NULL REFERENCES workspaces(id) ON DELETE CASCADE",
       "user_id TEXT NOT NULL REFERENCES users(id) ON DELETE CASCADE",
       "role TEXT NOT NULL DEFAULT 'member' CHECK(role IN ('owner', 'admin', 'member', 'viewer'))",
       "created_at TIMESTAMPTZ NOT NULL DEFAULT NOW()",
       "PRIMARY KEY (workspace_id, user_id)"],
     .index "idx_workspace_members_user" "workspace_members(user_id)"]

def classification : SchemaPart where
  title := "3. Task classification"
  items :=
    [.table "categories"
      ["id BIGSERIAL PRIMARY KEY",
       "workspace_id TEXT NOT NULL REFERENCES workspaces(id) ON DELETE CASCADE",
       "name TEXT NOT NULL"],
     .table "tags"
      ["id BIGSERIAL PRIMARY KEY",
       "workspace_id TEXT NOT NULL REFERENCES workspaces(id) ON DELETE CASCADE",
       "name TEXT NOT NULL"]]

def tasks : SchemaPart where
  title := "4. Tasks"
  items :=
    [.table "tasks"
      ["id BIGSERIAL PRIMARY KEY",
       "workspace_id TEXT NOT NULL REFERENCES workspaces(id) ON DELETE CASCADE",
       "title TEXT NOT NULL",
       "description TEXT",
       "status TEXT NOT NULL DEFAULT 'todo'",
       "priority TEXT",
       "view TEXT",
       "category_id BIGINT REFERENCES categories(id) ON DELETE SET NULL",
       "tag_id BIGINT REFERENCES tags(id) ON DELETE SET NULL",
       "start_date DATE",
       "due_date DATE",
       "completed_at TIMESTAMPTZ",
       "created_at TIMESTAMPTZ NOT NULL DEFAULT NOW()",
       "updated_at TIMESTAMPTZ NOT NULL DEFAULT NOW()"],
     .index "idx_tasks_workspace" "tasks(workspace_id, created_at DESC)",
     .index "idx_tasks_due_date" "tasks(workspace_id, due_date)",
     .table "task_assignees"
      ["task_id BIGINT NOT NULL REFERENCES tasks(id) ON DELETE CASCADE",
       "user_id TEXT NOT NULL REFERENCES users(id) ON DELETE CASCADE",
       "PRIMARY KEY (task_id, user_id)"],
     .index "idx_task_assignees_user" "task_assignees(user_id)"]

def savedFilters : SchemaPart where
  title := "5. Saved filters"
  items :=
    [.table "filters"
      ["id BIGSERIAL PRIMARY KEY",
       "user_id TEXT NOT NULL REFERENCES users(id) ON DELETE CASCADE",
       "workspace_id TEXT NOT NULL REFERENCES workspaces(id) ON DELETE CASCADE",
       "name TEXT NOT NULL CHECK(length(name) >= 1 AND length(name) <= 100)",
       "view_mode TEXT",
       "operator TEXT NOT NULL DEFAULT 'AND' CHECK(operator IN ('AND', 'OR'))",
       "is_default BOOLEAN NOT NULL DEFAULT FALSE",
       "created_at TIMESTAMPTZ NOT NULL DEFAULT NOW()"],
     .index "idx_filters_owner" "filters(workspace_id, user_id)",
     .table "filter_conditions"
      ["id BIGSERIAL PRIMARY KEY",
       "filter_id BIGINT NOT NULL REFERENCES filters(id) ON DELETE CASCADE",
       "position INTEGER NOT NULL DEFAULT 0",
       "kind TEXT NOT NULL CHECK(kind IN ('list', 'date_diff', 'date_range'))",
       "field TEXT",
       "date_from TEXT",
       "date_to TEXT",
       "operator TEXT NOT NULL",
       "\"values\" JSONB NOT NULL DEFAULT '[]'::jsonb",
       "unit TEXT"],
     .index "idx_filter_conditions_filter" "filter_conditions(filter_id, position)"]

/-- The whole schema. -/
def parts : List SchemaPart := [versions, users, workspaces, classification, tasks, savedFilters]

/-- The statements that create the schema. -/
def sql : String := "\n\n".intercalate (parts.map SchemaPart.sql)

/-- The rows of a new database: a user, a workspace, and the one as the owner of the other. -/
def seeds : List Seed :=
  [⟨"1. Default user (used when authentication is disabled)", "users", "id, display_name",
     "'local', 'Local User'", "id"⟩,
   ⟨"2. Default workspace", "workspaces", "id, name", "'default', 'Default Workspace'", "id"⟩,
   ⟨"3. Default membership (user owns default workspace)", "workspace_members",
     "workspace_id, user_id, role", "'default', 'local', 'owner'", "workspace_id, user_id"⟩]

/-- The statements that put the first rows in. -/
def seedSql : String := "\n\n".intercalate (seeds.map Seed.sql)

/-- The version of the schema. -/
def version : Int := 2

/-- The migrations, one for each version after the first. -/
def migrations : List Migration :=
  [⟨2, "add_assignee_user_index",
     "CREATE INDEX IF NOT EXISTS idx_task_assignees_user ON task_assignees(user_id);"⟩]

/-- The migration to a version. -/
def migration? (version : Int) : Option Migration := migrations.find? (·.version == version)

/-! ## Lemmas -/

theorem migration?_isSome {v : Int} (h : 2 ≤ v) (h' : v ≤ version) : (migration? v).isSome := by
  have : v = 2 := by simp only [version] at h'; omega
  subst this
  decide

end Schema

end TaskBoard.Postgres
