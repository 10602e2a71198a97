import TaskBoard.Api.Page
import TaskBoard.Filter.Query
import TaskBoard.Program
import TaskBoard.Storage.Cache
import TaskBoard.Storage.Error
import TaskBoard.Storage.SavedFilter

/-!
# Calls of the store

What a request may ask the store and the cache to do, and the replies.  Every call of the
store can fail; the cache never fails.

    the rows of no filters need no call                         (loadRows_nil)
-/

namespace TaskBoard

/-- A call of the store. -/
inductive StoreCall
  | ping
  | isMember (workspace user : String)
  | listTasks (workspace : String) (page : Page) (filter : CompiledFilter)
  | listFilters (workspace user : String)
  /-- Which of the filters belong to the user. -/
  | ownedIds (workspace user : String) (ids : List Int)
  | getFilter (workspace user : String) (id : Int)
  | createFilter (workspace user : String) (input : FilterInput)
  | updateFilter (workspace user : String) (id : Int) (input : FilterInput)
  | deleteFilter (workspace user : String) (id : Int)
  /-- The rows of the filters, whoever owns them. -/
  | fetchRows (ids : List Int)

/-- What the store replies when it does not fail. -/
def StoreCall.Reply : StoreCall → Type
  | .ping => Unit
  | .isMember _ _ => Bool
  | .listTasks _ _ _ => List Task × Nat
  | .listFilters _ _ => List SavedFilter
  | .ownedIds _ _ _ => List Int
  | .getFilter _ _ _ => Option SavedFilter
  | .createFilter _ _ _ => SavedFilter
  | .updateFilter _ _ _ _ => Option SavedFilter
  | .deleteFilter _ _ _ => Bool
  | .fetchRows _ => List FilterRow

/-- A call of the cache. -/
inductive CacheCall
  | get (ids : List Int)
  | set (ids : List Int) (rows : List FilterRow)
  | clear

def CacheCall.Reply : CacheCall → Type
  | .get _ => Option (List FilterRow)
  | .set _ _ => Unit
  | .clear => Unit

/-- A step of a request. -/
inductive ServiceStep
  | store (c : StoreCall)
  | cache (c : CacheCall)

def ServiceStep.Reply : ServiceStep → Type
  | .store c => Except StorageError c.Reply
  | .cache c => c.Reply

/-- What a request does. -/
abbrev Service (α : Type) := Program ServiceStep ServiceStep.Reply α

namespace Service

/-- One call of the store. -/
def store (c : StoreCall) : Service (Except StorageError c.Reply) := .step (.store c) .done

/-- One call of the cache. -/
def cache (c : CacheCall) : Service c.Reply := .step (.cache c) .done

/-- The rows of the filters: from the cache, or else from the store and then kept. -/
def loadRows (ids : List Int) : Service (Except StorageError (List FilterRow)) :=
  if ids.isEmpty then pure (.ok [])
  else do
    match ← cache (.get ids) with
    | some rows => pure (.ok rows)
    | none =>
      match ← store (.fetchRows (sortedIds ids)) with
      | .error e => pure (.error e)
      | .ok rows =>
        cache (.set (sortedIds ids) rows)
        pure (.ok rows)

/-- The predicate of a request; a failure to load its filters is a failure of the request. -/
def compile (q : Query) : Service (Except StorageError CompiledFilter) := do
  let rows ← loadRows q.filterIds
  pure (rows.map q.compile)

/-! ## Lemmas -/

theorem loadRows_nil : loadRows [] = .done (.ok []) := rfl

end Service

/-- What the cache does for a call, at a point in time. -/
def FilterCache.perform (now : Int) (cache : FilterCache) (c : CacheCall) : c.Reply × FilterCache :=
  match c with
  | .get ids => (cache.get? now ids, cache)
  | .set ids rows => ((), cache.set now ids rows)
  | .clear => ((), cache.clear)

end TaskBoard
