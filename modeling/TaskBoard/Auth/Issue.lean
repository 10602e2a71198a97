import TaskBoard.Auth.SessionToken
import TaskBoard.Settings.Resolved
import TaskBoard.Text.Blank

/-!
# Issuing tokens

A token for a user by the settings of a server.  It is signed even if users need not sign
in, but never with a secret that is too short, and never for nobody.

    a token for nobody is refused                               (tokenFor_blank)
-/

namespace TaskBoard

/-- Why no token is issued. -/
inductive IssueError
  | noSecret
  | noUser
  deriving Repr, DecidableEq

def IssueError.message : IssueError → String
  | .noSecret =>
    "A session secret of at least " ++ Numeral.natText Settings.minSecretLength ++
      " bytes is required to sign tokens"
  | .noUser => "User id must not be empty"

namespace Settings

/-- The key that tokens are signed with, if it is long enough. -/
def signingKey? (s : Settings) : Option (List UInt8) :=
  (s.sessionSecret.map Utf8.bytes).filter fun key => decide (minSecretLength ≤ key.length)

/-- A token for a user from a point in time on, with sixteen random bytes in its name. -/
def tokenFor (s : Settings) (user : String) (now : Int) (random : List UInt8) :
    Except IssueError String :=
  match s.signingKey? with
  | none => .error .noSecret
  | some key =>
    if Text.allBlank user then .error .noUser
    else .ok (SessionToken.issue key
      (SessionToken.claims user now SessionToken.defaultLifetime random))

/-! ## Lemmas -/

theorem tokenFor_blank (s : Settings) {user : String} (now : Int) (random : List UInt8)
    (h : Text.allBlank user = true) : ∃ e, s.tokenFor user now random = .error e := by
  unfold tokenFor
  split
  · exact ⟨_, rfl⟩
  · simp [h]

end Settings

end TaskBoard
