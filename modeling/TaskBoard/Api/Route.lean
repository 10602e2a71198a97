import TaskBoard.Api.Handler
import TaskBoard.Api.WorkspaceId
import TaskBoard.Auth.Gate
import TaskBoard.Http.MediaType

/-!
# Routes

Which resource a path names, and what a method does with it.  The segments of a path are
compared as they are written; the names in it are unescaped when the request is answered.

A request goes this way: a preflight request is answered at once; a path that names nothing
is not found; health is open to all; behind the gate, the method is looked at, then the
names in the path, then the query or the body.

    a path that does not start under the root names nothing     (ofPath?_of_foreign)
-/

namespace TaskBoard

/-- What a path names; the names in it are still escaped. -/
inductive Resource
  | health
  | tasks (workspace : String)
  | filters (workspace : String)
  | filter (workspace id : String)
  deriving Repr, DecidableEq

namespace Resource

/-- The segments that every path starts with. -/
def root : List String := ["", "api", "v1"]

def ofSegments? : List String → Option Resource
  | ["health"] => some .health
  | ["workspaces", workspace, "tasks"] => some (.tasks workspace)
  | ["workspaces", workspace, "filters"] => some (.filters workspace)
  | ["workspaces", workspace, "filters", id] =>
    if id.isEmpty then none else some (.filter workspace id)
  | _ => none

/-- The resource of a path. -/
def ofPath? (path : String) : Option Resource :=
  let segments := (Text.split (· == '/') path.toList).map String.ofList
  if root.isPrefixOf segments then ofSegments? (segments.drop root.length) else none

end Resource

namespace Route

/-! ## Names in the path -/

def invalidPath : Problem := .badRequest "PATH_PARSE_ERROR" "Invalid URL"

def invalidWorkspaceId : Problem :=
  .badRequest "INVALID_WORKSPACE_ID"
    "Invalid workspace_id: must be 1-64 alphanumeric chars, dashes, or underscores"

def invalidFilterId : Problem :=
  .badRequest "INVALID_FILTER_ID" "Invalid filter_id: must be a positive integer"

/-- The text of an escaped name. -/
def unescaped (s : String) : Except Problem String :=
  match Percent.segment? s with
  | some t => .ok t
  | none => .error invalidPath

/-- The workspace of an escaped name. -/
def workspaceOf (s : String) : Except Problem String := do
  let workspace ← unescaped s
  if isWorkspaceId workspace then pure workspace else throw invalidWorkspaceId

/-- The workspace and the filter of their escaped names. -/
def filterOf (s id : String) : Except Problem (String × Int) := do
  let workspace ← unescaped s
  let id ← unescaped id
  if isWorkspaceId workspace then
    match Numeral.readPositive? id.toList with
    | some n => pure (workspace, n)
    | none => throw invalidFilterId
  else throw invalidWorkspaceId

/-! ## Bodies -/

/-- The most bytes of a body. -/
def maxBody : Nat := 1048576

/-- Whether the request says that its body is JSON. -/
def saysJson (r : Http.Request) : Bool :=
  match (r.header? "content-type").bind Http.visibleText? with
  | some text => Http.MediaType.isJson text
  | none => false

/-- The filter in the body of a request. -/
def filterBody (r : Http.Request) : Except Problem FilterRequest :=
  if !saysJson r then
    .error (.badRequest "JSON_PARSE_ERROR"
      "Expected request with \x60Content-Type: application/json\x60")
  else if maxBody < r.body.length then
    .error (.badRequest "JSON_PARSE_ERROR"
      "Failed to buffer the request body: length limit exceeded")
  else FilterRequest.ofBytes r.body

/-! ## Methods -/

/-- What a method does with a resource behind the gate; `none` when it does nothing there. -/
def handler? (user : Except Problem String) (r : Http.Request) :
    Resource → Option (Handler Http.Response)
  | .health => none
  | .tasks workspace =>
    match r.method with
    | "GET" | "HEAD" => some do
      let user ← Handler.ofExcept user
      let workspace ← Handler.ofExcept (workspaceOf workspace)
      let query ← Handler.ofExcept (TaskQuery.ofText r.query)
      Handler.listTasks workspace user query
    | _ => none
  | .filters workspace =>
    match r.method with
    | "GET" | "HEAD" => some do
      let user ← Handler.ofExcept user
      let workspace ← Handler.ofExcept (workspaceOf workspace)
      Handler.listFilters workspace user
    | "POST" => some do
      let user ← Handler.ofExcept user
      let workspace ← Handler.ofExcept (workspaceOf workspace)
      let request ← Handler.ofExcept (filterBody r)
      Handler.createFilter workspace user request
    | _ => none
  | .filter workspace id =>
    match r.method with
    | "GET" | "HEAD" => some do
      let user ← Handler.ofExcept user
      let (workspace, id) ← Handler.ofExcept (filterOf workspace id)
      Handler.getFilter workspace user id
    | "PUT" => some do
      let user ← Handler.ofExcept user
      let (workspace, id) ← Handler.ofExcept (filterOf workspace id)
      let request ← Handler.ofExcept (filterBody r)
      Handler.updateFilter workspace user id request
    | "DELETE" => some do
      let user ← Handler.ofExcept user
      let (workspace, id) ← Handler.ofExcept (filterOf workspace id)
      Handler.deleteFilter workspace user id
    | _ => none

end Route

/-- The service: its gate, if there is one, and the pages that may use it. -/
structure Site where
  gate : Option Gate
  origins : Http.Origins

namespace Site

/-- Without a gate nobody knows who asks. -/
def nobody : Problem := .internal "Auth context not available"

/-- The user of a request, as far as the resource behind the gate sees one. -/
def caller (s : Site) (now : Int) (r : Http.Request) : Except Problem String :=
  match s.gate with
  | some g => g.user now r
  | none => .error nobody

/-- Whether the gate turns the request away before its method is looked at. -/
def turnsAway? (s : Site) (now : Int) (r : Http.Request) : Option Problem :=
  match s.gate with
  | none => none
  | some g =>
    match g.user now r with
    | .ok _ => none
    | .error p => some p

/-- A path that names nothing. -/
def notFound (r : Http.Request) : Problem :=
  .notFound "ROUTE_NOT_FOUND" ("No route for " ++ r.method ++ " " ++ r.path)

def ofProblem (p : Problem) : Http.Response := .json p.status p.toJson

/-- The method does nothing with the resource. -/
def methodNotAllowed : Http.Response := .bare 405

/-- The answer behind the layer for browsers. -/
def inner (s : Site) (now : Int) (r : Http.Request) : Service Http.Response :=
  match Resource.ofPath? r.path with
  | none => pure (ofProblem (notFound r))
  | some .health =>
    if r.method == "GET" || r.method == "HEAD" then Handler.health else pure methodNotAllowed
  | some resource =>
    match s.turnsAway? now r with
    | some p => pure (ofProblem p)
    | none =>
      match Route.handler? (s.caller now r) r resource with
      | some h => h.answer
      | none => pure methodNotAllowed

/-- A request for the head alone gets no body. -/
def forMethod (r : Http.Request) (answer : Http.Response) : Http.Response :=
  if r.method == "HEAD" then { answer with body := none } else answer

/-- The answer when no path names anything. -/
def unknown (s : Site) (r : Http.Request) : Http.Response :=
  if Http.Origins.isPreflight r then s.origins.preflight r
  else s.origins.annotate r (forMethod r (ofProblem (notFound r)))

/-- The answer to a request that arrives at the time `now`, in seconds. -/
def answer (s : Site) (now : Int) (r : Http.Request) : Service Http.Response :=
  if Http.Origins.isPreflight r then pure (s.origins.preflight r)
  else do
    let response ← s.inner now r
    pure (s.origins.annotate r (forMethod r response))

end Site

/-! ## Lemmas -/

theorem Resource.ofPath?_of_foreign {path : String}
    (h : root.isPrefixOf ((Text.split (· == '/') path.toList).map String.ofList) = false) :
    ofPath? path = none := by
  simp [ofPath?, h]

end TaskBoard
