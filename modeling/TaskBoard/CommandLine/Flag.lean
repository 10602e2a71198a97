import TaskBoard.Numeral

/-!
# Flags of the command line

A flag has a long name, perhaps a letter, and perhaps an environment variable that stands in
for it.  Most flags take a value.  All but a few are known before and after a command alike.

    a number of a socket is at most 65535                       (readSocket?_le)
-/

namespace TaskBoard.CommandLine

/-- Why the words of a command line start nothing. -/
inductive Stop
  /-- Help was asked for. -/
  | help
  /-- The version was asked for. -/
  | version
  | unknownArgument
  | unknownCommand
  /-- A flag lacks the value that it takes. -/
  | missingValue
  /-- A value is not of the kind that its flag takes. -/
  | badValue
  /-- A flag that takes no value has one. -/
  | unwantedValue
  /-- A flag is given twice. -/
  | repeated
  /-- A token needs a user. -/
  | missingUser
  deriving Repr, DecidableEq

/-- A flag. -/
inductive Flag
  | host
  | socket
  | noAuth
  | config
  | sessionSecret
  | postgresUrl
  | cacheTtl
  | user
  | help
  | version
  deriving Repr, DecidableEq

/-- Where a word stands: before any command, or after one. -/
inductive Level
  | top
  | start
  | token
  deriving Repr, DecidableEq

namespace Flag

/-- The long name, without its dashes. -/
def name : Flag → String
  | .host => "host"
  | .socket => "port"
  | .noAuth => "no-auth"
  | .config => "config"
  | .sessionSecret => "session-secret"
  | .postgresUrl => "postgres-url"
  | .cacheTtl => "filter-cache-ttl"
  | .user => "user-id"
  | .help => "help"
  | .version => "version"

/-- The letter that stands for the long name. -/
def letter? : Flag → Option Char
  | .host => some 'H'
  | .socket => some 'p'
  | .config => some 'c'
  | .user => some 'u'
  | .help => some 'h'
  | .version => some 'V'
  | _ => none

def takesValue : Flag → Bool
  | .noAuth => false
  | .help => false
  | .version => false
  | _ => true

/-- The environment variable whose value is taken when the flag is not given. -/
def environmentName? : Flag → Option String
  | .host => some "TASKDECK_HOST"
  | .socket => some "TASKDECK_PORT"
  | .config => some "TASKDECK_CONFIG"
  | .sessionSecret => some "TASKDECK_SESSION_SECRET"
  | .postgresUrl => some "TASKDECK_POSTGRES_URL"
  | .cacheTtl => some "TASKDECK_FILTER_CACHE_TTL_SECS"
  | _ => none

/-- The flags that are settings. -/
def settings : List Flag :=
  [.host, .socket, .noAuth, .config, .sessionSecret, .postgresUrl, .cacheTtl]

end Flag

/-- The flags that are known at a level. -/
def Level.flags : Level → List Flag
  | .top => Flag.settings ++ [.help, .version]
  | .start => Flag.settings ++ [.help]
  | .token => .user :: Flag.settings ++ [.help]

/-! ## Values -/

/-- The number of a socket. -/
def readSocket? (s : String) : Option Nat :=
  (Numeral.readInt64? s.toList).bind fun n =>
    if 0 ≤ n ∧ n ≤ Numeral.maxUInt16 then some n.toNat else none

/-- A number of seconds. -/
def readSeconds? (s : String) : Option Nat := Numeral.readUnsigned? Numeral.maxUInt64 s.toList

/-- What is wrong with a value of a flag. -/
def Flag.refusal? : Flag → String → Option Stop
  | .socket, v => if (readSocket? v).isSome then none else some .badValue
  | .cacheTtl, v => if (readSeconds? v).isSome then none else some .badValue
  | .config, v => if v = "" then some .missingValue else none
  | _, _ => none

/-! ## Lemmas -/

theorem readSocket?_le {s : String} {n : Nat} (h : readSocket? s = some n) :
    n ≤ Numeral.maxUInt16 := by
  obtain ⟨i, -, hi⟩ := Option.bind_eq_some_iff.1 h
  split at hi
  · cases hi; omega
  · cases hi

end TaskBoard.CommandLine
