import TaskBoard.Api.FilterRequest
import TaskBoard.Api.TaskQuery
import TaskBoard.Http.Message
import TaskBoard.Storage.Call

/-!
# Answers to requests

What each request does, once its parts have been read and its user is known: the calls that
it makes, in order, and its answer.  The first call that fails or refuses ends the request.

Every request about a workspace first asks whether the user is a member.  A listing asks
whether the wanted filters are the user's own, and then loads them; without them it lists
nothing.  A change of a filter drops all cached rows.

    a listing without filters asks for no owner                 (requireOwned_nil)
-/

namespace TaskBoard

/-- What a request does that can be refused. -/
abbrev Handler (α : Type) := ExceptT Problem (Program ServiceStep ServiceStep.Reply) α

namespace Handler

/-- Refuses the request. -/
def refuse {α : Type} (p : Problem) : Handler α := ExceptT.mk (pure (.error p))

/-- A part of a request that may be missing or wrong. -/
def ofExcept {α : Type} (x : Except Problem α) : Handler α := ExceptT.mk (pure x)

/-- A call of the store whose failure refuses the request. -/
def store (c : StoreCall) : Handler c.Reply :=
  ExceptT.mk do
    let reply ← Service.store c
    pure (reply.mapError Problem.ofStorage)

/-- Drops all cached rows. -/
def clearCache : Handler Unit := ExceptT.mk do
  Service.cache .clear
  pure (.ok ())

/-! ## Conditions -/

def accessDenied : Problem := .forbidden "ACCESS_DENIED" "Not a member of this workspace"

def requireMember (workspace user : String) : Handler Unit := do
  let isMember : Bool ← store (.isMember workspace user)
  if isMember then pure () else refuse accessDenied

/-- Numbers in brackets, with commas between. -/
def listText (ids : List Int) : String := "[" ++ ", ".intercalate (ids.map Numeral.text) ++ "]"

def filtersNotFound (ids : List Int) : Problem :=
  .notFound "FILTER_NOT_FOUND" ("Filters not found: " ++ listText ids)

def filterNotFound (id : Int) : Problem :=
  .notFound "FILTER_NOT_FOUND" ("Filter not found: " ++ Numeral.text id)

/-- Refuses a listing with filters that are not the user's own. -/
def requireOwned (workspace user : String) (ids : List Int) : Handler Unit :=
  if ids.isEmpty then pure ()
  else do
    let owned : List Int ← store (.ownedIds workspace user ids)
    let missing := ids.filter fun id => !owned.contains id
    if missing.isEmpty then pure () else refuse (filtersNotFound missing)

/-! ## Tasks -/

/-- The first placeholder of a filter in a listing; the workspace has the one before it. -/
def firstFilterSlot : Nat := 2

/-- The predicate of a listing; any failure to load its filters refuses it. -/
def compile (q : Query) : Handler CompiledFilter :=
  ExceptT.mk do
    let compiled ← Service.compile q
    pure (compiled.mapError fun _ => Problem.filtersNotLoaded)

/-- The page of a listing with the counts around it. -/
def taskPage (page : Page) (tasks : List Task) (total : Nat) : Json :=
  .object
    [("data", .array (tasks.map Task.toJson)),
     ("meta", .object
       [("page", .ofNat page.number), ("limit", .ofNat page.limit), ("total_items", .ofNat total),
        ("total_pages", .ofNat (Page.totalPages page.limit total))])]

def listTasks (workspace user : String) (q : TaskQuery) : Handler Http.Response := do
  let ids ← ofExcept q.ids
  let filters ← ofExcept q.filters
  let overrides ← ofExcept q.overrides
  requireMember workspace user
  requireOwned workspace user ids
  let compiled ← compile ⟨ids, filters, user, overrides, firstFilterSlot⟩
  let listing : List Task × Nat ← store (.listTasks workspace q.page compiled)
  pure (.json 200 (taskPage q.page listing.1 listing.2))

/-! ## Filters -/

def listFilters (workspace user : String) : Handler Http.Response := do
  requireMember workspace user
  let filters : List SavedFilter ← store (.listFilters workspace user)
  pure (.json 200 (.object [("data", .array (filters.map SavedFilter.toJson))]))

def getFilter (workspace user : String) (id : Int) : Handler Http.Response := do
  requireMember workspace user
  let filter : Option SavedFilter ← store (.getFilter workspace user id)
  match filter with
  | some f => pure (.json 200 f.toJson)
  | none => refuse (filterNotFound id)

def createFilter (workspace user : String) (request : FilterRequest) : Handler Http.Response := do
  let input ← ofExcept request.input
  requireMember workspace user
  let filter : SavedFilter ← store (.createFilter workspace user input)
  clearCache
  pure (.json 201 filter.toJson)

def updateFilter (workspace user : String) (id : Int) (request : FilterRequest) :
    Handler Http.Response := do
  let input ← ofExcept request.input
  requireMember workspace user
  let filter : Option SavedFilter ← store (.updateFilter workspace user id input)
  match filter with
  | some f => do
    clearCache
    pure (.json 200 f.toJson)
  | none => refuse (filterNotFound id)

def deleteFilter (workspace user : String) (id : Int) : Handler Http.Response := do
  requireMember workspace user
  let deleted : Bool ← store (.deleteFilter workspace user id)
  if deleted then do
    clearCache
    pure (.bare 204)
  else refuse (filterNotFound id)

/-! ## Health -/

/-- The version of the service. -/
def version : String := "0.1.0"

/-- The state of the service; a store that does not answer degrades it. -/
def health : Service Http.Response := do
  let reply ← Service.store .ping
  let (status, state, database) := match reply with
    | .ok _ => (200, "ok", "ok")
    | .error _ => (503, "degraded", "unavailable")
  pure (.json status (.object
    [("status", .string state), ("version", .string version), ("database", .string database)]))

/-- The answer of a request; a refusal is an answer, too. -/
def answer (h : Handler Http.Response) : Service Http.Response := do
  match ← h.run with
  | .ok r => pure r
  | .error p => pure (.json p.status p.toJson)

/-! ## Lemmas -/

theorem requireOwned_nil (workspace user : String) : requireOwned workspace user [] = pure () := rfl

end Handler

end TaskBoard
