import Std.Time.DateTime.Timestamp
import TaskBoard.Auth.Issue
import TaskBoard.CommandLine.Usage
import TaskBoard.Postgres.Connection

/-!
# The program

Reads the command line, the environment and the settings files.  `token` prints a signed
token; `start` checks all settings and prints where the server listens and which database it
uses, for the service that holds the sockets.
-/

namespace TaskBoard.Main

/-- A file, if it is there. -/
def readFile? (path : String) : IO (Option SettingsFile) := do
  try
    let contents ← IO.FS.readBinFile path
    pure (some ⟨path, contents.toList⟩)
  catch e =>
    match e with
    | .noFileOrDirectory _ _ _ => pure none
    | _ => throw (IO.userError (SettingsError.unreadable path).message)

/-- The environment as far as flags look at it. -/
def readEnvironment : IO CommandLine.Environment := do
  let names := CommandLine.Flag.settings.filterMap CommandLine.Flag.environmentName?
  let values ← names.mapM fun name => do pure (name, ← IO.getEnv name)
  pure fun name => (values.lookup name).join

/-- The settings file of the user. -/
def readProfile : IO (Option SettingsFile) := do
  match ← IO.getEnv "HOME" with
  | none => pure none
  | some home => readFile? (home ++ "/" ++ Settings.profileFolder ++ "/" ++ Settings.fileName)

/-- The settings file that the command line names, or the local one. -/
def readOverlay (config : Option String) : IO Overlay := do
  match config with
  | some path =>
    match ← readFile? path with
    | some f => pure (.file f)
    | none => pure (.missing path)
  | none =>
    match ← readFile? Settings.fileName with
    | some f => pure (.file f)
    | none => pure .none

/-- Prints an error and gives the code to end with. -/
def fail (message : String) : IO UInt32 := do
  IO.eprintln ("\nError: " ++ message ++ "\n")
  pure 1

def printToken (s : Settings) (user : String) : IO UInt32 := do
  let now ← Std.Time.Timestamp.now
  let random ← IO.getRandomBytes 16
  match s.tokenFor user now.toSecondsSinceUnixEpoch.val random.toList with
  | .ok token => do
    IO.println token
    pure 0
  | .error e => fail e.message

def start (s : Settings) : IO UInt32 := do
  match Postgres.Connection.ofSettings s.postgres with
  | .error e => fail e.message
  | .ok c => do
    IO.println ("listen " ++ s.host ++ " " ++ Numeral.natText s.socket)
    IO.println ("database " ++ c.target.database.getD "")
    pure 0

def run (env : CommandLine.Environment) (words : List String) : IO UInt32 := do
  match CommandLine.Invocation.ofWords env words with
  | .error stop =>
    if stop.isAnswer then do
      IO.println stop.message
      pure 0
    else do
      IO.eprintln stop.message
      pure 2
  | .ok i => do
    let profile ← readProfile
    let overlay ← readOverlay i.config
    match Settings.load i.layer overlay profile with
    | .error e => fail e.message
    | .ok s =>
      match i.command with
      | some (.token user) => printToken s user
      | _ => start s

end TaskBoard.Main

def main (words : List String) : IO UInt32 := do
  TaskBoard.Main.run (← TaskBoard.Main.readEnvironment) words
