import TaskBoard.Json.Basic
import TaskBoard.Storage.Error

/-!
# Problems

The refusals of the interface.  Each has a status, a kind, a code for programs and a message
for people.  A failure of the store is told only in general words; a conflict alone keeps
its text.

    a transient failure has status 503                          (status_ofStorage)
-/

namespace TaskBoard

/-- Why a request is refused. -/
inductive Problem
  | badRequest (code message : String)
  | notFound (code message : String)
  | unauthorized (code message : String)
  | forbidden (code message : String)
  | conflict (code message : String)
  | serviceUnavailable (message : String)
  | internal (message : String)
  deriving Repr, DecidableEq

namespace Problem

def status : Problem → Nat
  | .badRequest _ _ => 400
  | .notFound _ _ => 404
  | .unauthorized _ _ => 401
  | .forbidden _ _ => 403
  | .conflict _ _ => 409
  | .serviceUnavailable _ => 503
  | .internal _ => 500

def kind : Problem → String
  | .badRequest _ _ => "bad_request"
  | .notFound _ _ => "not_found"
  | .unauthorized _ _ => "unauthorized"
  | .forbidden _ _ => "forbidden"
  | .conflict _ _ => "conflict"
  | .serviceUnavailable _ => "service_unavailable"
  | .internal _ => "internal_error"

def code : Problem → String
  | .badRequest code _ => code
  | .notFound code _ => code
  | .unauthorized code _ => code
  | .forbidden code _ => code
  | .conflict code _ => code
  | .serviceUnavailable _ => "SERVICE_UNAVAILABLE"
  | .internal _ => "INTERNAL"

def message : Problem → String
  | .badRequest _ message => message
  | .notFound _ message => message
  | .unauthorized _ message => message
  | .forbidden _ message => message
  | .conflict _ message => message
  | .serviceUnavailable message => message
  | .internal message => message

/-- The body of the answer. -/
def toJson (p : Problem) : Json :=
  .object [("error", .string p.kind), ("code", .string p.code), ("message", .string p.message)]

/-- A failure of the store. -/
def ofStorage (e : StorageError) : Problem :=
  match e with
  | .conflict reason => .conflict "CONFLICT" reason
  | e =>
    if e.isTransient then .serviceUnavailable "Database temporarily unavailable"
    else .internal "Database operation failed"

/-- The definitions of the wanted filters could not be loaded.  The tasks are not listed
without them, whatever the failure was. -/
def filtersNotLoaded : Problem := .internal "Failed to load task filters"

/-! ## Lemmas -/

theorem status_ofStorage {e : StorageError} (h : e.isTransient = true) :
    (ofStorage e).status = 503 := by
  cases e <;> simp_all [ofStorage, status, StorageError.isTransient]

end Problem

end TaskBoard
