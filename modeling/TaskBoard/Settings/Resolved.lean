import TaskBoard.Settings.Layer
import TaskBoard.Text.Utf8

/-!
# Settings

The settings that a server starts with.  They are taken from the command line, then from the
second settings file, then from the profile, and last from the defaults.  The second file is
the one that the command line names, or else the local one.

What they say together is checked: a host and a socket, a cache that keeps its entries for a
while, and a secret of some length if users have to sign in.

The old entries of the cache are swept out less often than they grow old: an interval that
is not longer than their life is set to twice that life.

    settings are checked before they are given out              (fault?_load)
-/

namespace TaskBoard

/-- How the database is reached. -/
structure PostgresSettings where
  url : String
  maxConnections : Nat
  minConnections : Nat
  /-- Times are in seconds. -/
  acquireTimeout : Nat
  idleTimeout : Nat
  maxLifetime : Nat
  statementTimeout : Nat
  deriving Repr, DecidableEq

/-- The settings of a server. -/
structure Settings where
  host : String
  socket : Nat
  authEnabled : Bool
  /-- The key that session tokens are signed with. -/
  sessionSecret : Option String
  postgres : PostgresSettings
  /-- Times are in seconds. -/
  cacheTtl : Nat
  sweepInterval : Nat
  deriving Repr, DecidableEq

/-- What settings lack. -/
inductive SettingsFault
  | emptyHost
  | zeroSocket
  | zeroCacheTtl
  | noSecret
  | shortSecret
  deriving Repr, DecidableEq

/-- Why there are no settings. -/
inductive SettingsError
  /-- The file that was asked for is not there. -/
  | notFound (path : String)
  /-- The file is no text. -/
  | unreadable (path : String)
  /-- The file is no settings file. -/
  | malformed (path : String)
  | unsound (fault : SettingsFault)
  deriving Repr, DecidableEq

/-- A file: its name and its contents. -/
structure SettingsFile where
  path : String
  contents : List UInt8

/-- The settings file beside the profile. -/
inductive Overlay
  | none
  | file (f : SettingsFile)
  /-- A file that was asked for but is not there. -/
  | missing (path : String)

/-! ## Defaults and bounds -/

namespace PostgresSettings

def defaultMaxConnections : Nat := 20
def defaultMinConnections : Nat := 2
def defaultAcquireTimeout : Nat := 30
def defaultIdleTimeout : Nat := 600
def defaultMaxLifetime : Nat := 1800
def defaultStatementTimeout : Nat := 60

end PostgresSettings

namespace Settings

def defaultHost : String := "127.0.0.1"
def defaultSocket : Nat := 5390
def defaultCacheTtl : Nat := 300
def defaultSweepInterval : Nat := 600

/-- The least length of a session secret in bytes. -/
def minSecretLength : Nat := 32

/-- The name of a settings file. -/
def fileName : String := "taskdeck.json"

/-- The folder of the profile in the home of a user. -/
def profileFolder : String := ".taskdeck"

/-! ## From layers -/

/-- An interval that is longer than the life of an entry, as far as numbers go. -/
def raised (sweep ttl : Nat) : Nat :=
  if sweep ≤ ttl then min (2 * ttl) Numeral.maxUInt64 else sweep

/-- The settings of a layer, and the defaults where it has none. -/
def ofLayer (l : Layer) : Settings :=
  let ttl := l.cacheTtl.getD defaultCacheTtl
  { host := l.host.getD defaultHost
    socket := l.socket.getD defaultSocket
    authEnabled := l.authEnabled.getD true
    sessionSecret := l.sessionSecret
    postgres :=
      { url := l.url.getD ""
        maxConnections := l.maxConnections.getD PostgresSettings.defaultMaxConnections
        minConnections := l.minConnections.getD PostgresSettings.defaultMinConnections
        acquireTimeout := l.acquireTimeout.getD PostgresSettings.defaultAcquireTimeout
        idleTimeout := l.idleTimeout.getD PostgresSettings.defaultIdleTimeout
        maxLifetime := l.maxLifetime.getD PostgresSettings.defaultMaxLifetime
        statementTimeout := l.statementTimeout.getD PostgresSettings.defaultStatementTimeout }
    cacheTtl := ttl
    sweepInterval := raised (l.sweepInterval.getD defaultSweepInterval) ttl }

/-- The first thing that the settings lack. -/
def fault? (s : Settings) : Option SettingsFault :=
  if s.host = "" then some .emptyHost
  else if s.socket = 0 then some .zeroSocket
  else if s.cacheTtl = 0 then some .zeroCacheTtl
  else if s.authEnabled then
    match s.sessionSecret with
    | none => some .noSecret
    | some secret =>
      if (Utf8.bytes secret).length < minSecretLength then some .shortSecret else none
  else none

end Settings

/-! ## From files -/

/-- The layer that a file holds. -/
def Layer.ofFile (f : SettingsFile) : Except SettingsError Layer :=
  match Utf8.decode? f.contents, Json.decodeBytes decoder f.contents with
  | none, _ => .error (.unreadable f.path)
  | some _, .ok l => .ok l
  | some _, .error _ => .error (.malformed f.path)

/-- The layer of the profile; one that is not there gives nothing. -/
def Layer.ofProfile : Option SettingsFile → Except SettingsError Layer
  | none => .ok .empty
  | some f => ofFile f

/-- The layer of the second file. -/
def Layer.ofOverlay : Overlay → Except SettingsError Layer
  | .none => .ok .empty
  | .file f => ofFile f
  | .missing path => .error (.notFound path)

namespace Settings

/-- Settings without a fault. -/
def checked (s : Settings) : Except SettingsError Settings :=
  match s.fault? with
  | some f => .error (.unsound f)
  | none => .ok s

/-- The settings of a server, from the command line, the second file and the profile. -/
def load (flags : Layer) (overlay : Overlay) (profile : Option SettingsFile) :
    Except SettingsError Settings := do
  let bottom ← Layer.ofProfile profile
  let middle ← Layer.ofOverlay overlay
  checked (ofLayer (flags.onto (middle.onto bottom)))

end Settings

/-! ## Texts -/

def SettingsFault.message : SettingsFault → String
  | .emptyHost => "server.host must not be empty"
  | .zeroSocket => "server.port must be greater than 0"
  | .zeroCacheTtl => "filters.cache_ttl_secs must be greater than 0"
  | .noSecret =>
    "auth.session_secret is required when auth is enabled (or start with --no-auth)"
  | .shortSecret =>
    "auth.session_secret must be at least " ++ Numeral.natText Settings.minSecretLength ++ " bytes"

def SettingsError.message : SettingsError → String
  | .notFound path => "Config file not found: " ++ path
  | .unreadable path => "Failed to read config file: " ++ path
  | .malformed path => "Failed to parse config file: " ++ path
  | .unsound fault => "Configuration error: " ++ fault.message

/-- What the settings say about signing in, without the secret. -/
def Settings.authText (s : Settings) : String :=
  "AuthConfig \x7b enabled: " ++ (if s.authEnabled then "true" else "false") ++
    ", session_secret: " ++
    (if s.sessionSecret.isSome then "Some(\"<redacted>\")" else "None") ++ " \x7d"

/-! ## Lemmas -/

namespace Settings

theorem fault?_checked {s t : Settings} (h : checked s = .ok t) : t = s ∧ t.fault? = none := by
  unfold checked at h
  split at h
  · cases h
  · next hf => cases h; exact ⟨rfl, hf⟩

theorem fault?_load {flags : Layer} {overlay : Overlay} {profile : Option SettingsFile}
    {s : Settings} (h : load flags overlay profile = .ok s) : s.fault? = none := by
  unfold load at h
  cases hb : Layer.ofProfile profile with
  | error e => rw [hb] at h; cases h
  | ok bottom =>
    cases hm : Layer.ofOverlay overlay with
    | error e => rw [hb, hm] at h; cases h
    | ok middle =>
      rw [hb, hm] at h
      exact (fault?_checked h).2

end Settings

end TaskBoard
