import TaskBoard.Numeral

/-!
# Failures of the store

What can go wrong between a request and the kept tasks and filters.  A failure is transient
when the same call may succeed later: the store cannot be reached, or the connection to it
is lost or not free.

    a failure of the connection is transient                    (isTransient_database)
-/

namespace TaskBoard

/-- A failure of the connection to the database or of one statement. -/
inductive DatabaseFault
  | poolTimedOut
  | poolClosed
  /-- The connection broke; the text says how. -/
  | connection (reason : String)
  /-- The server sent what the protocol does not allow. -/
  | protocol (reason : String)
  | workerCrashed
  /-- The server does not encrypt, and the connection has to be encrypted. -/
  | unencrypted
  | rowNotFound
  /-- The server refused the statement. -/
  | refused (reason : String)
  /-- A column does not hold what it should. -/
  | undecodable
  deriving Repr, DecidableEq

/-- A failure of the database layer. -/
inductive PostgresError
  | database (fault : DatabaseFault)
  | migrationFailed (version : Int) (name reason : String)
  | config (reason : String)
  | conflict (reason : String)
  deriving Repr, DecidableEq

/-- A failure of the store, whichever it is. -/
inductive StorageError
  | database (fault : DatabaseFault)
  | migrationFailed (backend : String) (version : Int) (name reason : String)
  | config (reason : String)
  | unavailable (backend reason : String)
  | conflict (reason : String)
  deriving Repr, DecidableEq

/-! ## Texts -/

def DatabaseFault.message : DatabaseFault → String
  | .poolTimedOut => "pool timed out while waiting for an open connection"
  | .poolClosed => "attempted to acquire a connection on a closed pool"
  | .connection reason => "error communicating with database: " ++ reason
  | .protocol reason => "encountered unexpected or invalid data: " ++ reason
  | .workerCrashed => "attempted to communicate with a crashed background worker"
  | .unencrypted =>
    "error occurred while attempting to establish a TLS connection: server does not support TLS"
  | .rowNotFound => "no rows returned by a query that expected to return at least one row"
  | .refused reason => "error returned from database: " ++ reason
  | .undecodable => "error occurred while decoding"

def PostgresError.message : PostgresError → String
  | .database fault => "Database error: " ++ fault.message
  | .migrationFailed version name reason =>
    "Migration " ++ Numeral.text version ++ " (" ++ name ++ ") failed: " ++ reason
  | .config reason => "Configuration error: " ++ reason
  | .conflict reason => "Conflict: " ++ reason

namespace StorageError

def message : StorageError → String
  | .database fault => "PostgreSQL error: " ++ fault.message
  | .migrationFailed backend version name reason =>
    "Migration " ++ Numeral.text version ++ " (" ++ name ++ ") failed on " ++ backend ++ ": " ++
      reason
  | .config reason => "Configuration error: " ++ reason
  | .unavailable backend reason => "Backend " ++ backend ++ " is not available: " ++ reason
  | .conflict reason => "Conflict: " ++ reason

/-- A failure to load the definitions of filters, as it is logged. -/
def loadMessage (e : StorageError) : String := "Failed to load filter definitions: " ++ e.message

/-! ## Kinds -/

/-- The store that keeps tasks and filters. -/
def postgres : String := "postgres"

/-- A failure of the database layer as one of the store.  A closed pool means that there is
no store any more. -/
def ofPostgres : PostgresError → StorageError
  | .database .poolClosed => .unavailable postgres "connection pool is closed"
  | .database fault => .database fault
  | .migrationFailed version name reason => .migrationFailed postgres version name reason
  | .config reason => .config reason
  | .conflict reason => .conflict reason

/-- Whether the same call may succeed later. -/
def isTransient : StorageError → Bool
  | .unavailable _ _ => true
  | .database .poolTimedOut => true
  | .database .poolClosed => true
  | .database (.connection _) => true
  | _ => false

/-- The store that failed, where it is known. -/
def backend : StorageError → String
  | .database _ => postgres
  | .migrationFailed backend _ _ _ => backend
  | .unavailable backend _ => backend
  | .config _ => "unknown"
  | .conflict _ => "unknown"

/-! ## Lemmas -/

theorem isTransient_database (reason : String) :
    (StorageError.database (.connection reason)).isTransient = true := rfl

end StorageError

end TaskBoard
