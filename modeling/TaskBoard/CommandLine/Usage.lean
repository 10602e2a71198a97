import TaskBoard.CommandLine.Invocation

/-!
# What the command line says

The help, the version, and a line for each reason to stop.
-/

namespace TaskBoard.CommandLine

/-- The name of the program, and its version. -/
def programName : String := "taskdeck"
def programVersion : String := "0.1.0"

/-- What a flag is for. -/
def Flag.about : Flag → String
  | .host => "Server host address"
  | .socket => "Server port"
  | .noAuth => "Disable authentication (for development)"
  | .config => "Path to config file"
  | .sessionSecret => "Secret used to sign session tokens (at least 32 bytes)"
  | .postgresUrl => "PostgreSQL connection URL"
  | .cacheTtl => "How long fetched filter definitions are reused, in seconds"
  | .user => "User id to put in the token subject"
  | .help => "Print help"
  | .version => "Print version"

/-- The names of a flag. -/
def Flag.synopsis (f : Flag) : String :=
  let long := "--" ++ f.name ++ (if f.takesValue then " <VALUE>" else "")
  match f.letter? with
  | some c => "-" ++ String.singleton c ++ ", " ++ long
  | none => "    " ++ long

def flagLine (f : Flag) : String := "  " ++ f.synopsis ++ "\n          " ++ f.about

/-- The help. -/
def usage : String :=
  "\n".intercalate
    (["Task tracking server with saved filters", "",
      "Usage: " ++ programName ++ " [OPTIONS] [COMMAND]", "", "Commands:",
      "  start  Start the server (default command)",
      "  token  Print a signed session token for a user",
      "  help   Print this message", "", "Options:"] ++ Level.top.flags.map flagLine)

/-- Whether a stop is an answer and no fault. -/
def Stop.isAnswer : Stop → Bool
  | .help => true
  | .version => true
  | _ => false

def Stop.message : Stop → String
  | .help => usage
  | .version => programName ++ " " ++ programVersion
  | .unknownArgument => "error: unexpected argument"
  | .unknownCommand => "error: unrecognized subcommand"
  | .missingValue => "error: a value is required"
  | .badValue => "error: invalid value"
  | .unwantedValue => "error: unexpected value"
  | .repeated => "error: the argument cannot be used multiple times"
  | .missingUser => "error: the argument '--user-id' is required"

end TaskBoard.CommandLine
