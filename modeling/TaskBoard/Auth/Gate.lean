import TaskBoard.Api.Problem
import TaskBoard.Auth.SessionToken
import TaskBoard.Http.Cookie
import TaskBoard.Http.Origins

/-!
# The gate

Who a request comes from.  A closed gate asks for a session token: the one after `Bearer` in
the `authorization` header, or else the one in the session cookie.  A cookie is sent by a
browser on its own, so a request with a cookie must not come from a foreign page.  An open
gate lets every request in as the local user.

    an open gate lets every request in as the local user        (user_of_open)
-/

namespace TaskBoard

/-- The gate in front of the tasks and filters. -/
structure Gate where
  closed : Bool
  key : List UInt8
  origins : Http.Origins

namespace Gate

/-- The user behind an open gate. -/
def localUser : String := "local"

/-- The name of the session cookie. -/
def cookieName : String := "taskdeck_session"

def authRequired : Problem := .unauthorized "AUTH_REQUIRED" "Authentication required"
def tokenExpired : Problem := .unauthorized "TOKEN_EXPIRED" "Session has expired"
def tokenInvalid : Problem := .unauthorized "TOKEN_INVALID" "Invalid session token"
def originNotAllowed : Problem := .unauthorized "ORIGIN_NOT_ALLOWED" "Request origin not allowed"

/-- What stands before a token in its header. -/
def bearer : List Char := "Bearer ".toList

/-- The token in the header of a request. -/
def bearerToken? (r : Http.Request) : Option String := do
  let value ← r.header? "authorization"
  let text ← Http.visibleText? value
  if bearer.isPrefixOf text then
    let token := Text.trim (text.drop bearer.length)
    if token.isEmpty then none else some (String.ofList token)
  else none

/-- Whether the request comes from a foreign page.  An origin that is not readable text is
not looked at. -/
def isForeign (g : Gate) (r : Http.Request) : Bool :=
  match (r.header? "origin").bind Http.visibleText? with
  | some origin => !g.origins.allows (String.ofList origin)
  | none => false

/-- The token of a request. -/
def token (g : Gate) (r : Http.Request) : Except Problem String :=
  match bearerToken? r with
  | some token => .ok token
  | none =>
    if g.isForeign r then .error originNotAllowed
    else match Http.Cookie.find? r cookieName with
      | some token => .ok token
      | none => .error authRequired

def refusal : TokenError → Problem
  | .expired => tokenExpired
  | _ => tokenInvalid

/-- The user of a request that arrives at the time `now`, in seconds. -/
def user (g : Gate) (now : Int) (r : Http.Request) : Except Problem String :=
  if g.closed then do
    let token ← g.token r
    let claims ← (SessionToken.validate g.key now token).mapError refusal
    pure claims.sub
  else .ok localUser

/-! ## Lemmas -/

theorem user_of_open {g : Gate} (h : g.closed = false) (now : Int) (r : Http.Request) :
    g.user now r = .ok localUser := by
  simp [user, h]

theorem token_of_bearer (g : Gate) {r : Http.Request} {t : String} (h : bearerToken? r = some t) :
    g.token r = .ok t := by
  simp [token, h]

end Gate

end TaskBoard
