import TaskBoard.Settings.Resolved
import TaskBoard.Storage.Error
import TaskBoard.Text.Percent
import TaskBoard.Uri.Basic

/-!
# Connections

How the database is reached.  The address names a host, a user and a database, and its query
may say more.  The settings say how many connections are kept, and for how long; a setting
of zero stands for its default.  Every session is opened with a bound on the time that a
statement may take.

    the numbers of a connection are those of the settings       (maxConnections_ofSettings)
-/

namespace TaskBoard.Postgres

/-- What an address says about a connection. -/
structure Target where
  host : Option String
  /-- The number of the socket. -/
  socket : Option Nat
  user : Option String
  password : Option String
  database : Option String
  applicationName : Option String
  /-- Whether only an encrypted connection will do. -/
  encrypted : Bool
  /-- Options of the session, as they are sent. -/
  options : Option String
  deriving Repr, DecidableEq

namespace Target

/-- An option with blanks and backslashes made harmless. -/
def escaped (cs : List Char) : List Char :=
  cs.flatMap fun c => if c = ' ' ∨ c = '\\' then ['\\', c] else [c]

/-- Adds text to the options. -/
def append (t : Target) (text : String) : Target :=
  { t with options := some (match t.options with
      | none => text
      | some "" => text
      | some old => old ++ " " ++ text) }

/-- Adds an option with a name and a value. -/
def setOption (t : Target) (name value : String) : Target :=
  t.append ("-c " ++ String.ofList (escaped (name.toList ++ '=' :: value.toList)))

/-- The name between the brackets of `options[name]`. -/
def optionName? (key : String) : Option String :=
  match key.toList with
  | 'o' :: 'p' :: 't' :: 'i' :: 'o' :: 'n' :: 's' :: '[' :: rest =>
    if rest.getLast? = some ']' then some (String.ofList rest.dropLast) else none
  | _ => none

/-- The ways to encrypt a connection; true for those that insist on it. -/
def encryptions : List (String × Bool) :=
  [("disable", false), ("allow", false), ("prefer", false), ("require", true),
   ("verify-ca", true), ("verify-full", true)]

/-- Takes one field of the query; names without a meaning are passed over. -/
def withField? (t : Target) (field : String × String) : Option Target :=
  let value := field.2
  match field.1 with
  | "sslmode" | "ssl-mode" =>
    (encryptions.lookup (String.ofList (Text.asciiLower value.toList))).map fun b =>
      { t with encrypted := b }
  | "statement-cache-capacity" =>
    (Numeral.readUnsigned? Numeral.maxUInt64 value.toList).map fun _ => t
  | "host" => some { t with host := some value }
  | "hostaddr" =>
    if Uri.isV4 value.toList || Uri.isV6 value.toList then some { t with host := some value }
    else none
  | "port" =>
    (Numeral.readUnsigned? Numeral.maxUInt16 value.toList).map fun n => { t with socket := some n }
  | "dbname" => some { t with database := some value }
  | "user" => some { t with user := some value }
  | "password" => some { t with password := some value }
  | "application_name" => some { t with applicationName := some value }
  | "options" => some (match t.options with
      | none => { t with options := some value }
      | some old => { t with options := some (old ++ " " ++ value) })
  | key => some (match optionName? key with
      | some name => t.setOption name value
      | none => t)

/-- A part that is there if it is not empty; its escapes have to be UTF-8. -/
def part? (s : String) : Option (Option String) :=
  if s = "" then some none else (Percent.segment? s).map some

/-- What an address says about a connection. -/
def ofUri? (u : Uri) : Option Target := do
  let user ← part? u.user
  let password ← part? u.password
  let database ← part? (String.ofList (u.path.toList.dropWhile (· == '/')))
  let start : Target :=
    { host := if u.host = "" then none else some u.host
      socket := u.socket
      user := user
      password := password
      database := database
      applicationName := none
      encrypted := false
      options := none }
  (Percent.fields u.query).foldlM withField? start

end Target

/-- How connections are opened and kept. -/
structure Connection where
  target : Target
  maxConnections : Nat
  minConnections : Nat
  /-- Times are in seconds. -/
  acquireTimeout : Nat
  idleTimeout : Nat
  maxLifetime : Nat
  statementTimeout : Nat
  deriving Repr, DecidableEq

/-- A setting, or its default where it is zero. -/
def orDefault (n fallback : Nat) : Nat := if 0 < n then n else fallback

/-- Why an address is refused. -/
def noUrl : String := "PostgreSQL URL is required"
def badUrl : String := "Invalid PostgreSQL URL"

/-- How connections are opened and kept by the settings. -/
def Connection.ofSettings (s : PostgresSettings) : Except PostgresError Connection :=
  let statementTimeout := orDefault s.statementTimeout PostgresSettings.defaultStatementTimeout
  if s.url = "" then .error (.config noUrl)
  else match (Uri.ofText? s.url).bind Target.ofUri? with
    | none => .error (.config badUrl)
    | some t => .ok
      { target := t.setOption "statement_timeout" (Numeral.natText statementTimeout ++ "s")
        maxConnections := orDefault s.maxConnections PostgresSettings.defaultMaxConnections
        minConnections := orDefault s.minConnections PostgresSettings.defaultMinConnections
        acquireTimeout := orDefault s.acquireTimeout PostgresSettings.defaultAcquireTimeout
        idleTimeout := orDefault s.idleTimeout PostgresSettings.defaultIdleTimeout
        maxLifetime := orDefault s.maxLifetime PostgresSettings.defaultMaxLifetime
        statementTimeout := statementTimeout }

/-! ## Lemmas -/

theorem maxConnections_ofSettings {s : PostgresSettings} {c : Connection}
    (h : Connection.ofSettings s = .ok c) :
    c.maxConnections = orDefault s.maxConnections PostgresSettings.defaultMaxConnections := by
  unfold Connection.ofSettings at h
  split at h
  · cases h
  · split at h
    · cases h
    · cases h; rfl

end TaskBoard.Postgres
